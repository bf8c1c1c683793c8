import OnlineJudge.Accounts.AuthCodes
import OnlineJudge.Accounts.Passwords
import OnlineJudge.Library.Table
import OnlineJudge.Store.Tables

/-!
# Administrator accounts

`AdminCreateAdminAccount`, `AdminUpdateAdminAccount` and `AdminDeleteAdminAccount`
(`oj_admin_service_impl.cpp`) over the methods of `Model` (`oj_model.hpp`).  A handler is the tree
of its calls, and a call is one step, which may fail also after it has taken effect.
-/

namespace OnlineJudge.Admin

open Accounts (CommandFate Hashing buildPasswordHash isPasswordStrongEnough stoi)

/-! ## The table -/

/-- The values of the column `role`. -/
inductive AdminRole
  | superAdmin
  | admin
  deriving DecidableEq

/-- `IsAdminRole`, and the role that is meant. -/
def adminRole? (role : Bytes) : Option AdminRole :=
  if role = text "admin" then some .admin
  else if role = text "super_admin" then some .superAdmin
  else none

structure AdminAccount where
  adminId : UInt32
  uid : UInt32
  passwordHash : Bytes
  role : AdminRole
  createdAt : Store.DateTime
  deriving DecidableEq

abbrev AdminTable := Table AdminAccount fun row => row.adminId.toNat

/-- `IsSuperAdminRole` of an account. -/
def AdminAccount.isSuper (account : AdminAccount) : Bool := account.role = .superAdmin

inductive AdminKey
  | adminCounts
  /-- `admin_role_count:<role>`. -/
  | roleCount (role : AdminRole)
  deriving DecidableEq

/-- `std::atoi`, for numbers of type `int`. -/
def atoi (encoded : Bytes) : Int := (stoi encoded).getD 0

/-! ## The methods of `Model` -/

structure CallFate where
  /-- `GET` of a count. -/
  get : CommandFate := .answered
  transaction : CommandFate := .answered
  /-- `SETEX` of a count. -/
  set : CommandFate := .answered
  /-- The two commands `DEL` after a change. -/
  firstDel : CommandFate := .answered
  secondDel : CommandFate := .answered
  /-- `GetUserById` returns `true`. -/
  userFound : Bool := true
  newId : UInt32 := 0
  now : Store.DateTime := 0

structure AdminStore where
  table : AdminTable
  cache : AdminKey → Option Bytes := fun _ => none

namespace AdminStore

variable (store : AdminStore) (fate : CallFate)

def getAdminByAdminId (adminId : Int32) : Option AdminAccount :=
  if adminId < 0 || fate.transaction.throws then none
  else store.table.find adminId.toUInt32.toNat

def getAdminByUid (uid : Int32) : Option AdminAccount :=
  if uid < 0 || fate.transaction.throws then none
  else
    match store.table.rows.filter fun row => row.uid = uid.toUInt32 with
    | [row] => some row
    | _ => none

/-- `GetStringByAnyKey`; a failure is a miss. -/
def getString (key : AdminKey) (get : CommandFate) : Option Bytes :=
  if get.throws then none else store.cache key

def setString (key : AdminKey) (value : Bytes) (set : CommandFate) : AdminStore :=
  { store with cache := set.select store.cache (Function.update store.cache key (some value)) }

def deleteString (key : AdminKey) (del : CommandFate) : AdminStore :=
  { store with cache := del.select store.cache (Function.update store.cache key none) }

/-- The count of the rows with a role, as an `int`. -/
def queryRoleCount (role : AdminRole) : Int :=
  (Int32.ofNat (store.table.count fun row => row.role = role)).toInt

/-- `GetRoleCount`; the second component is the store after it. -/
def getRoleCount (role : AdminRole) : Option Int × AdminStore :=
  match store.getString (.roleCount role) fate.get with
  | some value => (some (atoi value), store)
  | none =>
    if fate.transaction.throws then (none, store)
    else
      (some (store.queryRoleCount role),
        store.setString (.roleCount role) (decimalInt (store.queryRoleCount role)) fate.set)

def commit (after : AdminTable) (firstKey secondKey : AdminKey) : Bool × AdminStore :=
  let committed := { store with table := fate.transaction.select store.table after }
  if fate.transaction.throws then (false, committed)
  else
    (true, (committed.deleteString firstKey fate.firstDel).deleteString secondKey fate.secondDel)

def createAdminAccount (uid : Int32) (passwordHash : Bytes) (role : AdminRole) :
    Bool × AdminStore :=
  if uid < 0 then (false, store)
  else if role = .superAdmin && store.table.rows.any AdminAccount.isSuper then (false, store)
  -- the indexes of the table refuse the row
  else if (store.table.find fate.newId.toNat).isSome ||
      store.table.rows.any (fun row => row.uid = uid.toUInt32) then (false, store)
  else
    store.commit fate
      (store.table.insert
        { adminId := fate.newId
          uid := uid.toUInt32
          passwordHash := passwordHash
          role := role
          createdAt := fate.now })
      .adminCounts (.roleCount role)

def updateAdminRole (adminId : Int32) (newRole : AdminRole) : Bool × AdminStore :=
  if adminId < 0 then (false, store)
  else
    match store.table.find adminId.toUInt32.toNat with
    | none => (!fate.transaction.throws, store)
    | some item =>
      store.commit fate (store.table.update { item with role := newRole })
        (.roleCount item.role) (.roleCount newRole)

def deleteAdminAccount (adminId : Int32) : Bool × AdminStore :=
  if adminId < 0 then (false, store)
  else
    match store.table.find adminId.toUInt32.toNat with
    | none => (!fate.transaction.throws, store)
    | some item =>
      store.commit fate (store.table.keep fun row => row.adminId ≠ item.adminId)
        .adminCounts (.roleCount item.role)

end AdminStore

/-! ## The handlers -/

inductive AdminResponse
  | ok (account : Option AdminAccount)
  | error (code : Nat) (message : String) (retryable : Bool)
  deriving DecidableEq

inductive AdminHandler
  | finished (response : AdminResponse)
  | getAdminByAdminId (adminId : Int32) (continuation : Option AdminAccount → AdminHandler)
  | getAdminByUid (uid : Int32) (continuation : Option AdminAccount → AdminHandler)
  | getUserById (uid : Int32) (continuation : Bool → AdminHandler)
  | getRoleCount (role : AdminRole) (continuation : Option Int → AdminHandler)
  | createAdminAccount (uid : Int32) (passwordHash : Bytes) (role : AdminRole)
      (continuation : Bool → AdminHandler)
  | updateAdminRole (adminId : Int32) (newRole : AdminRole) (continuation : Bool → AdminHandler)
  | deleteAdminAccount (adminId : Int32) (continuation : Bool → AdminHandler)

def AdminHandler.fails (code : Nat) (message : String) (retryable : Bool := false) : AdminHandler :=
  .finished (.error code message retryable)

/-- What is read of `struct AdminSession` (`oj_admin.hpp`). -/
structure AdminSession where
  adminId : Int32
  uid : Int32
  deriving DecidableEq

/-- What is read of `message AdminAccount`. -/
structure AccountMessage where
  adminId : UInt32 := 0
  uid : UInt32 := 0
  role : Bytes := []
  deriving DecidableEq

structure SaveAdminAccountRequest where
  account : Option AccountMessage := none
  password : Bytes := []
  deriving DecidableEq

/-- `RequireAdmin` with `super_only`; `session` is what the cookie stands for.  `IsAdminRole` holds
of every value of the column. -/
def requireAdmin (session : Option AdminSession) (admitted : AdminAccount → AdminHandler) :
    AdminHandler :=
  match session with
  | none => .fails 401 "UNAUTHORIZED"
  | some session =>
    if session.adminId ≤ 0 || session.uid ≤ 0 then .fails 401 "STALE_ADMIN_SESSION"
    else
      .getAdminByAdminId session.adminId fun byId =>
      match byId with
      | none => .fails 401 "STALE_ADMIN_SESSION"
      | some byId =>
        .getAdminByUid session.uid fun byUid =>
        match byUid with
        | none => .fails 401 "STALE_ADMIN_SESSION"
        | some byUid =>
          if byId.adminId ≠ byUid.adminId || byId.uid ≠ session.uid.toUInt32 then
            .fails 401 "STALE_ADMIN_SESSION"
          else if !byId.isSuper then .fails 403 "FORBIDDEN"
          else admitted byId

def buildSecurePasswordHash (hashing : Hashing) (password : Bytes)
    (random : Option (Fin 16 → UInt8)) : Except String Bytes :=
  if !isPasswordStrongEnough password then .error "WEAK_PASSWORD"
  else
    let passwordHash := buildPasswordHash hashing password random
    if passwordHash.isEmpty then .error "PASSWORD_HASH_FAILED" else .ok passwordHash

def createAccount (hashing : Hashing) (uid : UInt32) (role : AdminRole) (password : Bytes)
    (random : Option (Fin 16 → UInt8)) : AdminHandler :=
  match buildSecurePasswordHash hashing password random with
  | .error error =>
    .fails 400 (if error = "WEAK_PASSWORD" then "WEAK_PASSWORD" else "PASSWORD_HASH_FAILED")
  | .ok hash =>
    .createAdminAccount uid.toInt32 hash role fun created =>
    if !created then .fails 500 "CREATE_ADMIN_FAILED" true
    else
      .getAdminByUid uid.toInt32 fun existing =>
      match existing with
      | none => .fails 500 "LOAD_CREATED_ADMIN_FAILED" true
      | some existing => .finished (.ok (some existing))

def adminCreateAdminAccount (hashing : Hashing) (session : Option AdminSession)
    (request : SaveAdminAccountRequest) (random : Option (Fin 16 → UInt8)) : AdminHandler :=
  requireAdmin session fun _ =>
  match request.account.bind fun account =>
    (adminRole? account.role).filter (fun _ => account.uid ≠ 0) |>.map (account.uid, ·) with
  | none => .fails 400 "INVALID_ADMIN_ACCOUNT"
  | some (uid, role) =>
    .getUserById uid.toInt32 fun found =>
    if !found then .fails 404 "USER_NOT_FOUND"
    else
      .getAdminByUid uid.toInt32 fun existing =>
      if existing.isSome then .fails 409 "ADMIN_ALREADY_EXISTS"
      else if role = .superAdmin then
        .getRoleCount .superAdmin fun count =>
        match count with
        | none => .fails 500 "COUNT_SUPER_ADMIN_FAILED" true
        | some count =>
          if count > 0 then .fails 409 "ONLY_ONE_SUPER_ADMIN"
          else createAccount hashing uid role request.password random
      else createAccount hashing uid role request.password random

def updateAccount (target : AdminAccount) (role : AdminRole) : AdminHandler :=
  .updateAdminRole target.adminId.toInt32 role fun updated =>
  if !updated then .fails 500 "UPDATE_ADMIN_FAILED" true
  else .finished (.ok (some { target with role := role }))

def adminUpdateAdminAccount (session : Option AdminSession) (request : SaveAdminAccountRequest) :
    AdminHandler :=
  requireAdmin session fun current =>
  match request.account.bind fun account =>
    (adminRole? account.role).filter (fun _ => account.adminId ≠ 0) |>.map (account.adminId, ·) with
  | none => .fails 400 "INVALID_ADMIN_ACCOUNT"
  | some (adminId, role) =>
    .getAdminByAdminId adminId.toInt32 fun target =>
    match target with
    | none => .fails 404 "ADMIN_NOT_FOUND"
    | some target =>
      if current.adminId = target.adminId && target.isSuper && role ≠ .superAdmin then
        .fails 400 "SUPER_ADMIN_SELF_DOWNGRADE_FORBIDDEN"
      else if target.role ≠ role && (target.isSuper || role = .superAdmin) then
        .getRoleCount .superAdmin fun superCount =>
        match superCount with
        | none => .fails 500 "COUNT_SUPER_ADMIN_FAILED" true
        | some superCount =>
          if target.isSuper && superCount ≤ 1 then .fails 409 "LAST_SUPER_ADMIN_PROTECTED"
          else if role = .superAdmin && superCount > 0 then
            .fails 409 "ONLY_ONE_SUPER_ADMIN"
          else updateAccount target role
      else updateAccount target role

def deleteAccount (target : AdminAccount) : AdminHandler :=
  .deleteAdminAccount target.adminId.toInt32 fun deleted =>
  if !deleted then .fails 500 "DELETE_ADMIN_FAILED" true else .finished (.ok none)

def adminDeleteAdminAccount (session : Option AdminSession) (adminId : UInt32) : AdminHandler :=
  requireAdmin session fun current =>
  if adminId = 0 then .fails 404 "ADMIN_NOT_FOUND"
  else
    .getAdminByAdminId adminId.toInt32 fun target =>
    match target with
    | none => .fails 404 "ADMIN_NOT_FOUND"
    | some target =>
      if current.adminId = target.adminId then .fails 400 "ADMIN_SELF_DELETE_FORBIDDEN"
      else if target.isSuper then
        .getRoleCount .superAdmin fun count =>
        match count with
        | none => .fails 409 "LAST_SUPER_ADMIN_PROTECTED"
        | some count =>
          if count ≤ 1 then .fails 409 "LAST_SUPER_ADMIN_PROTECTED" else deleteAccount target
      else deleteAccount target

/-! ## Requests -/

inductive AdminRequest
  | create (session : Option AdminSession) (request : SaveAdminAccountRequest)
      (random : Option (Fin 16 → UInt8))
  | update (session : Option AdminSession) (request : SaveAdminAccountRequest)
  | delete (session : Option AdminSession) (adminId : UInt32)

def AdminRequest.handler (hashing : Hashing) : AdminRequest → AdminHandler
  | .create session request random => adminCreateAdminAccount hashing session request random
  | .update session request => adminUpdateAdminAccount session request
  | .delete session adminId => adminDeleteAdminAccount session adminId

variable {ι : Type} [DecidableEq ι]

structure AdminState (ι : Type) extends AdminStore where
  calls : ι → AdminHandler := fun _ => .finished (.ok none)

inductive AdminAction (ι : Type)
  | request (i : ι) (request : AdminRequest)
  | call (i : ι) (fate : CallFate)
  | expire (key : AdminKey)

def AdminState.resume (s : AdminState ι) (i : ι) (store : AdminStore) (rest : AdminHandler) :
    AdminState ι where
  toAdminStore := store
  calls := Function.update s.calls i rest

def AdminState.step (hashing : Hashing) (s : AdminState ι) : AdminAction ι → Option (AdminState ι)
  | .request i request =>
    match s.calls i with
    | .finished _ => some (s.resume i s.toAdminStore (request.handler hashing))
    | _ => none
  | .call i fate =>
    match s.calls i with
    | .finished _ => none
    | .getAdminByAdminId adminId continuation =>
      some (s.resume i s.toAdminStore (continuation (s.getAdminByAdminId fate adminId)))
    | .getAdminByUid uid continuation =>
      some (s.resume i s.toAdminStore (continuation (s.getAdminByUid fate uid)))
    | .getUserById _ continuation => some (s.resume i s.toAdminStore (continuation fate.userFound))
    | .getRoleCount role continuation =>
      some (s.resume i (s.getRoleCount fate role).2 (continuation (s.getRoleCount fate role).1))
    | .createAdminAccount uid passwordHash role continuation =>
      some (s.resume i (s.createAdminAccount fate uid passwordHash role).2
        (continuation (s.createAdminAccount fate uid passwordHash role).1))
    | .updateAdminRole adminId newRole continuation =>
      some (s.resume i (s.updateAdminRole fate adminId newRole).2
        (continuation (s.updateAdminRole fate adminId newRole).1))
    | .deleteAdminAccount adminId continuation =>
      some (s.resume i (s.deleteAdminAccount fate adminId).2
        (continuation (s.deleteAdminAccount fate adminId).1))
  | .expire key => some { s with cache := Function.update s.cache key none }

variable (ι) in
def adminSystem (hashing : Hashing) (store : AdminStore) :
    TransitionSystem (AdminState ι) (AdminAction ι) where
  initial := { store with }
  step := AdminState.step hashing

end OnlineJudge.Admin
