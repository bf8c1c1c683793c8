import Mathlib.Data.List.Pairwise
import OnlineJudge.Accounts.AuthCodes
import OnlineJudge.Accounts.Users
import OnlineJudge.Library.Alone

/-!
# The table of users

The methods of `ModelUser` (`model_user.hpp`) on the table `users`, for calls that do not overlap.
A method is one transaction; the reply to its commit may be lost.
-/

namespace OnlineJudge.Accounts

open List

structure Collation where
  weightString : Bytes → Bytes

def Collation.equal (collation : Collation) (first second : Bytes) : Bool :=
  collation.weightString first = collation.weightString second

def charLength (value : Bytes) : Nat := value.countP fun byte => byte &&& 0xC0 != 0x80

/-- The texts of a column `VARCHAR(width)`; longer ones are errors in the strict mode. -/
def fits (width : Nat) (value : Bytes) : Bool := validUtf8 value && charLength value ≤ width

def User.fits (user : User) : Bool :=
  Accounts.fits 20 user.name && Accounts.fits 255 user.passwordHash &&
    Accounts.fits 50 user.email && Accounts.fits 32 user.passwordAlgo

/-- The row that `CreateUser` writes. -/
def newUser (uid : UInt32) (name email : Bytes) (now : DateTime) : User where
  uid
  name
  email
  createTime := now
  lastLogin := now
  passwordAlgo := text "none"
  passwordUpdateAt := now

def User.withLastLogin (user : User) (now : DateTime) : User := { user with lastLogin := now }

def User.withPassword (user : User) (passwordHash passwordAlgo : Bytes) (now : DateTime) : User :=
  { user with passwordHash, passwordAlgo, passwordUpdateAt := now }

def Collation.distinct (collation : Collation) (first second : User) : Bool :=
  first.uid != second.uid && !collation.equal first.name second.name &&
    !collation.equal first.email second.email

structure UserTable (collation : Collation) where
  rows : List User
  unique : rows.Pairwise fun first second => collation.distinct first second = true
  fits : ∀ user ∈ rows, user.fits = true

def UserTable.empty (collation : Collation) : UserTable collation := ⟨[], .nil, nofun⟩

def Collation.ignoringCase : Collation where
  weightString := map fun ch => if 65 ≤ ch && ch ≤ 90 then ch + 32 else ch

variable {collation : Collation}

namespace Collation

variable {first second third : Bytes}

theorem equal_iff :
    collation.equal first second = true ↔
      collation.weightString first = collation.weightString second :=
  decide_eq_true_iff

@[simp]
theorem equal_self (value : Bytes) : collation.equal value value = true := equal_iff.mpr rfl

theorem equal_symm (equal : collation.equal first second = true) :
    collation.equal second first = true :=
  equal_iff.mpr (equal_iff.mp equal).symm

theorem equal_trans (equal : collation.equal first second = true)
    (equal' : collation.equal second third = true) : collation.equal first third = true :=
  equal_iff.mpr ((equal_iff.mp equal).trans (equal_iff.mp equal'))

theorem distinct_iff {user other : User} :
    collation.distinct user other = true ↔
      user.uid ≠ other.uid ∧ collation.equal user.name other.name = false ∧
        collation.equal user.email other.email = false := by
  simp [distinct, and_assoc]

end Collation

open Collation

/-- The methods return `false` when the transaction is not committed, or not known to be. -/
def CommandFate.run (fate : CommandFate) (table : UserTable collation)
    (after : Option (UserTable collation)) : UserTable collation × Bool :=
  match after with
  | none => (table, false)
  | some after => (fate.select table after, !fate.throws)

theorem CommandFate.run_eq_true_iff {fate : CommandFate} {table : UserTable collation}
    {after : Option (UserTable collation)} :
    (fate.run table after).2 = true ↔
      fate = .answered ∧ after = some (fate.run table after).1 := by
  cases after with
  | none => simp [run]
  | some => cases fate <;> simp [run, throws, select]

variable {change : User → User}

namespace UserTable

def ofRows (rows : List User) : Option (UserTable collation) :=
  if valid : (rows.Pairwise fun first second => collation.distinct first second = true) ∧
      ∀ user ∈ rows, user.fits = true then
    some ⟨rows, valid.1, valid.2⟩
  else none

variable {value : Bytes}

theorem fits_of_ascii {width : Nat} (ascii : ∀ byte ∈ value, byte ≤ 0x7F)
    (short : value.length ≤ width) : Accounts.fits width value = true := by
  have chars : charLength value ≤ width := (countP_le_length).trans short
  rw [Accounts.fits, validUtf8_of_ascii ascii, Bool.true_and, decide_eq_true chars]

theorem rows_of_ofRows {rows : List User} {table : UserTable collation}
    (made : ofRows rows = some table) : table.rows = rows := by
  unfold ofRows at made
  split at made
  · cases made
    rfl
  · cases made

variable (table : UserTable collation)

/-! ## The methods -/

def insert (user : User) : Option (UserTable collation) := ofRows (table.rows ++ [user])

def update (user : User) : Option (UserTable collation) :=
  ofRows (table.rows.map fun row => if row.uid = user.uid then user else row)

/-- A query by a text; `query_one` takes the first row. -/
def findBy (key : User → Bytes) (value : Bytes) : Option User :=
  table.rows.find? fun user => collation.equal (key user) value

/-- The query of `GetUserByName`. -/
def findByName (name : Bytes) : Option User := table.findBy (·.name) name

/-- The query of `GetUser`, `CheckUser` and `GetUserPasswordAuth`. -/
def findByEmail (email : Bytes) : Option User := table.findBy (·.email) email

def findById (uid : UInt32) : Option User := table.rows.find? (·.uid = uid)

def erase (uid : UInt32) : UserTable collation where
  rows := table.rows.filter (·.uid ≠ uid)
  unique := table.unique.filter _
  fits := fun user mem => table.fits user (mem_filter.mp mem).1

/-- `CreateUser`; `uid` is the next value of `AUTO_INCREMENT`. -/
def createUser (uid : UInt32) (name email : Bytes) (now : DateTime) :
    Option (UserTable collation) :=
  table.insert (newUser uid name email now)

def modify (found : User → Bool) (change : User → User) : Option (UserTable collation) :=
  match table.rows.find? found with
  | some user => table.update (change user)
  | none => some table

def updateLastLogin (email : Bytes) (now : DateTime) : Option (UserTable collation) :=
  table.modify (fun user => collation.equal user.email email) (·.withLastLogin now)

def setUserPassword (email passwordHash passwordAlgo : Bytes) (now : DateTime) :
    Option (UserTable collation) :=
  table.modify (fun user => collation.equal user.email email)
    (·.withPassword passwordHash passwordAlgo now)

def updateUserName (uid : Int) (newName : Bytes) : Option (UserTable collation) :=
  if uid ≤ 0 then none
  else
    table.modify (fun user => (user.uid.toNat : Int) = uid) fun user =>
      { user with name := newName }

/-! ## What a query finds -/

variable {table} {user other : User} {name email : Bytes}

section

variable (mem : user ∈ table.rows) (mem' : other ∈ table.rows)
include mem mem'

theorem distinct_of_mem (different : user ≠ other) : collation.distinct user other = true := by
  have symm : Std.Symm fun first second => collation.distinct first second = true := by
    refine ⟨fun first second distinct => ?_⟩
    obtain ⟨uid, name, email⟩ := distinct_iff.mp distinct
    refine distinct_iff.mpr ⟨uid.symm, ?_, ?_⟩
    · exact Bool.eq_false_iff.mpr fun same =>
      Bool.eq_false_iff.mp name (equal_symm same)
    · exact Bool.eq_false_iff.mpr fun same =>
      Bool.eq_false_iff.mp email (equal_symm same)
  exact table.unique.forall mem mem' different

theorem eq_of_uid_eq (same : user.uid = other.uid) : user = other := by
  by_contra different
  exact (distinct_iff.mp (distinct_of_mem mem mem' different)).1 same

theorem eq_of_name_equal (same : collation.equal user.name other.name = true) : user = other := by
  by_contra different
  have distinct := (distinct_iff.mp (distinct_of_mem mem mem' different)).2.1
  exact Bool.false_ne_true (distinct.symm.trans same)

theorem eq_of_email_equal (same : collation.equal user.email other.email = true) :
    user = other := by
  by_contra different
  have distinct := (distinct_iff.mp (distinct_of_mem mem mem' different)).2.2
  exact Bool.false_ne_true (distinct.symm.trans same)

end

variable {key : User → Bytes}

theorem findBy_eq_some_iff (unique : ∀ user ∈ table.rows, ∀ other ∈ table.rows,
      collation.equal (key user) (key other) = true → user = other) :
    table.findBy key value = some user ↔
      user ∈ table.rows ∧ collation.equal (key user) value = true := by
  have equal_of_found {first : User} (found : table.findBy key value = some first) :
      collation.equal (key first) value = true := by
    simpa using find?_some found
  constructor
  · intro found
    exact ⟨mem_of_find?_eq_some found, equal_of_found found⟩
  · rintro ⟨mem, equal⟩
    cases found : table.findBy key value with
    | none => exact absurd equal (find?_eq_none.mp found user mem)
    | some first =>
      have same := equal_trans (equal_of_found found) (equal_symm equal)
      rw [unique first (mem_of_find?_eq_some found) user mem same]

theorem findByName_eq_some_iff :
    table.findByName name = some user ↔
      user ∈ table.rows ∧ collation.equal user.name name = true :=
  findBy_eq_some_iff fun _ mem _ mem' => eq_of_name_equal mem mem'

theorem findByEmail_eq_some_iff :
    table.findByEmail email = some user ↔
      user ∈ table.rows ∧ collation.equal user.email email = true :=
  findBy_eq_some_iff fun _ mem _ mem' => eq_of_email_equal mem mem'

theorem findBy_eq_none_iff :
    table.findBy key value = none ↔
      ∀ user ∈ table.rows, collation.equal (key user) value = false := by
  simp [findBy]

/-! ## What a method leaves -/

@[simp]
theorem findById_erase (uid : UInt32) : (table.erase uid).findById uid = none := by
  simp [findById, erase]

theorem of_insert {after : UserTable collation} (inserted : table.insert user = some after) :
    user.fits = true ∧ (∀ row ∈ table.rows, collation.distinct row user = true) ∧
      after.rows = table.rows ++ [user] := by
  have rows := rows_of_ofRows inserted
  refine ⟨after.fits user (by simp [rows]), ?_, rows⟩
  have unique := after.unique
  rw [rows, pairwise_append] at unique
  exact fun row mem => unique.2.2 row mem user (mem_singleton_self user)

theorem exists_insert (fits : user.fits = true)
    (distinct : ∀ row ∈ table.rows, collation.distinct row user = true) :
    ∃ after, table.insert user = some after ∧ after.rows = table.rows ++ [user] := by
  have unique : (table.rows ++ [user]).Pairwise fun first second =>
    collation.distinct first second = true := by
    rw [pairwise_append]
    refine ⟨table.unique, pairwise_singleton .., fun row mem other single => ?_⟩
    rw [mem_singleton.mp single]
    exact distinct row mem
  have fitting : ∀ row ∈ table.rows ++ [user], row.fits = true := by
    intro row mem
    rcases mem_append.mp mem with old | new
    · exact table.fits row old
    · rw [mem_singleton.mp new]
      exact fits
  exact ⟨_, dif_pos ⟨unique, fitting⟩, rfl⟩

theorem exists_update {row : User} (mem : row ∈ table.rows) (uid : user.uid = row.uid)
    (name : user.name = row.name) (email : user.email = row.email) (fits : user.fits = true) :
    ∃ after, table.update user = some after ∧
      after.rows = table.rows.map fun row => if row.uid = user.uid then user else row := by
  -- the keys of the rows are those that they had
  have keys : ∀ other ∈ table.rows, ∀ next, next = (if other.uid = user.uid then user else other) →
      next.uid = other.uid ∧ next.name = other.name ∧ next.email = other.email := by
    rintro other mem' next rfl
    split
    · rename_i same
      have equal := eq_of_uid_eq mem' mem (same.trans uid)
      exact ⟨same.symm, by rw [name, equal], by rw [email, equal]⟩
    · exact ⟨rfl, rfl, rfl⟩
  have unique : (table.rows.map fun row => if row.uid = user.uid then user else row).Pairwise
      fun first second => collation.distinct first second = true := by
    rw [pairwise_map]
    refine table.unique.imp_of_mem fun {first second} mem₁ mem₂ distinct => ?_
    obtain ⟨uid₁, name₁, email₁⟩ := keys first mem₁ _ rfl
    obtain ⟨uid₂, name₂, email₂⟩ := keys second mem₂ _ rfl
    rw [distinct_iff, uid₁, uid₂, name₁, name₂, email₁, email₂]
    exact distinct_iff.mp distinct
  have fitting : ∀ next ∈ table.rows.map fun row => if row.uid = user.uid then user else row,
      next.fits = true := by
    intro next mem'
    obtain ⟨other, old, rfl⟩ := mem_map.mp mem'
    split
    · exact fits
    · exact table.fits other old
  exact ⟨_, dif_pos ⟨unique, fitting⟩, rfl⟩

theorem exists_modify (change : User → User) (found : table.findByEmail email = some user)
    (uid : (change user).uid = user.uid) (name : (change user).name = user.name)
    (same : (change user).email = user.email) (fits : (change user).fits = true) :
    ∃ after, table.modify (fun user => collation.equal user.email email) change = some after ∧
      after.findByEmail email = some (change user) := by
  obtain ⟨mem, equal⟩ := findByEmail_eq_some_iff.mp found
  obtain ⟨after, updated, rows⟩ := exists_update mem uid name same fits
  have first : table.rows.find? (fun user => collation.equal user.email email) = some user := found
  refine ⟨after, ?_, findByEmail_eq_some_iff.mpr ⟨?_, ?_⟩⟩
  · simp only [modify, first, updated]
  · rw [rows]
    exact mem_map.mpr ⟨user, mem, if_pos uid.symm⟩
  · rw [same]
    exact equal

theorem exists_updateLastLogin (found : table.findByEmail email = some user) (now : DateTime) :
    ∃ after, table.updateLastLogin email now = some after ∧
      after.findByEmail email = some (user.withLastLogin now) := by
  have fits : (user.withLastLogin now).fits = true :=
    table.fits user (findByEmail_eq_some_iff.mp found).1
  exact exists_modify (·.withLastLogin now) found rfl rfl rfl fits

/-! ## What holds of all rows -/

section

variable {P : User → Prop} {after : UserTable collation}

theorem forall_mem_insert (all : ∀ row ∈ table.rows, P row) (new : P user)
    (inserted : table.insert user = some after) : ∀ row ∈ after.rows, P row := by
  intro row mem
  rw [(of_insert inserted).2.2] at mem
  rcases mem_append.mp mem with old | last
  · exact all row old
  · rw [mem_singleton.mp last]
    exact new

theorem forall_mem_modify {found : User → Bool}
    (all : ∀ row ∈ table.rows, P row) (modified : table.modify found change = some after)
    (kept : ∀ row, P row → P (change row)) : ∀ row ∈ after.rows, P row := by
  unfold modify at modified
  split at modified
  · rename_i first hit
    intro row mem
    rw [rows_of_ofRows modified] at mem
    obtain ⟨old, mem', rfl⟩ := mem_map.mp mem
    split
    · exact kept first (all first (mem_of_find?_eq_some hit))
    · exact all old mem'
  · cases modified
    exact all

theorem forall_mem_run {next : Option (UserTable collation)} (all : ∀ row ∈ table.rows, P row)
    (kept : ∀ after, next = some after → ∀ row ∈ after.rows, P row) (fate : CommandFate) :
    ∀ row ∈ (fate.run table next).1.rows, P row := by
  cases next with
  | none => exact all
  | some after =>
    cases fate with
    | notExecuted => exact all
    | answered | replyLost => exact kept after rfl

end

end UserTable

/-! ## The transactions -/

open RepeatableRead

variable {db : Database fun _ : Unit => User} {found : User → Bool} {user : User}

theorem wlp_modifyBody (change : User → User) (row : db () = some user) (hit : found user = true) :
    wlp (· = db) db
      { commits := fun progress _ => overlay progress.writes db () = some (change user)
        returns := fun _ _ => False
        raises := fun _ => True }
      (modifyBody found change) {} := by
  rintro snapshot (taken | ⟨-, rfl, -⟩)
  · cases taken
  have seen : overlay (fun _ => none) snapshot () = some user := row
  simp only [seen, hit, if_true]
  exact ⟨fun _ => by simp [wlp, overlay, Progress.write], fun _ => trivial⟩

/-- The transaction of a method, run alone on the row that its query finds, changes the row or
leaves it, and changes it if the method returns `true`. -/
theorem alone_modify {after : Database fun _ : Unit => User}
    (row : db () = some user) (hit : found user = true) (fates : List (Fate Unit)) {answer : Bool}
    (ran : (modify found change).alone db fates = (answer, after)) :
    (after () = some user ∧ answer = false) ∨ after () = some (change user) := by
  have holds := wlp_modifyBody change row hit
  have commits {result : Bool} {after : Database fun _ : Unit => User}
      (committed : Commits (modifyBody found change) db result after) :
      after () = some (change user) := by
    obtain ⟨progress, replay, rfl⟩ := committed
    exact replay.wlp holds
  have ended : Ended (modifyBody found change) db _ := Replay.begin.alone fates
  rw [modify, Procedure.alone] at ran
  split at ran
  case h_1 result after' _ ends =>
    rw [ends] at ended
    cases ran
    exact .inr (commits ended)
  case h_2 result _ ends =>
    rw [ends] at ended
    obtain ⟨progress, replay⟩ := ended
    exact (replay.wlp holds).elim
  case h_3 after' fates' ends =>
    rw [ends] at ended
    cases ran
    rcases ended with rfl | ⟨result, committed⟩
    · exact .inl ⟨row, rfl⟩
    · exact .inr (commits committed)

/-- **The methods on the table are the transactions of `Accounts.modify`**: what these leave of the
row, run alone, is the row of the table before or after the method. -/
theorem UserTable.row_of_modify {table next : UserTable collation}
    (first : table.rows.find? found = some user) (uid : (change user).uid = user.uid)
    (modified : table.modify found change = some next) (fates : List (Fate Unit)) {answer : Bool}
    {after : Database fun _ : Unit => User}
    (ran : (Accounts.modify found change).alone (fun _ => some user) fates = (answer, after)) :
    (after () = table.findById user.uid ∧ answer = false) ∨
      after () = next.findById user.uid := by
  have mem := mem_of_find?_eq_some first
  have findById_of_mem {table : UserTable collation} {user : User} (mem : user ∈ table.rows) :
      table.findById user.uid = some user := by
    cases hit : table.findById user.uid with
    | none => simpa using find?_eq_none.mp hit user mem
    | some other =>
      have same : other.uid = user.uid := by simpa using find?_some hit
      rw [eq_of_uid_eq (mem_of_find?_eq_some hit) mem same]
  have changed : change user ∈ next.rows := by
    simp only [modify, first] at modified
    rw [rows_of_ofRows modified]
    exact mem_map.mpr ⟨user, mem, if_pos uid.symm⟩
  rw [findById_of_mem mem, ← uid, findById_of_mem changed]
  exact alone_modify rfl (find?_some first) fates ran

end OnlineJudge.Accounts
