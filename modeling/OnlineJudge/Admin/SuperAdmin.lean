import OnlineJudge.Admin.Accounts

/-!
# One super administrator

The super administrator is always the same row (`SuperIs`), so that what a handler has read stays
true while it waits: no handler changes that role or deletes that row (`AdminHandler.Safe`).
-/

namespace OnlineJudge.Admin

open AdminAccount Table

open Accounts (CommandFate Hashing)

/-! ## The row -/

/-- The row with the id `superId` is the only super administrator. -/
structure SuperIs (superId : UInt32) (table : AdminTable) : Prop where
  present : ∃ row ∈ table.rows, row.adminId = superId
  role_iff : ∀ row ∈ table.rows, (row.role = .superAdmin ↔ row.adminId = superId)

namespace SuperIs

variable {superId : UInt32} {table : AdminTable}

section

variable (only : SuperIs superId table)
include only

theorem count_eq_one : table.count isSuper = 1 := by
  obtain ⟨row, mem, rfl⟩ := only.present
  rw [count, ← countP_key mem]
  refine List.countP_congr fun other mem' => ?_
  simp only [isSuper, decide_eq_true_eq, UInt32.toNat_inj]
  exact only.role_iff other mem'

theorem any_isSuper : table.rows.any isSuper = true := by
  obtain ⟨row, mem, same⟩ := only.present
  exact List.any_eq_true.mpr ⟨row, mem, decide_eq_true ((only.role_iff row mem).mpr same)⟩

theorem insert {row : AdminAccount} (fresh : table.find row.adminId.toNat = none)
    (plain : row.role ≠ .superAdmin) :
    SuperIs superId (table.insert row) := by
  obtain ⟨top, mem, same⟩ := only.present
  refine ⟨⟨top, (mem_insert fresh).mpr (.inr mem), same⟩, fun other member => ?_⟩
  rcases (mem_insert fresh).mp member with rfl | before
  · have different : other.adminId ≠ superId := by
      rintro rfl
      exact find_eq_none_iff.mp fresh top mem (congrArg UInt32.toNat same)
    exact iff_of_false plain different
  · exact only.role_iff other before

theorem update {item : AdminAccount} {newRole : AdminRole}
    (found : table.find item.adminId.toNat = some item)
    (agrees : newRole = .superAdmin ↔ item.adminId = superId) :
    SuperIs superId (table.update { item with role := newRole }) := by
  have members {other : AdminAccount} :
      other ∈ (table.update { item with role := newRole }).rows ↔ _ :=
    mem_update found
  constructor
  · obtain ⟨top, mem, same⟩ := only.present
    by_cases updated : top.adminId = item.adminId
    · exact ⟨_, members.mpr (.inl rfl), updated.symm.trans same⟩
    · refine ⟨top, members.mpr (.inr ⟨mem, ?_⟩), same⟩
      exact fun equal => updated (UInt32.toNat_inj.mp equal)
  · intro other member
    rcases members.mp member with rfl | ⟨before, _⟩
    · exact agrees
    · exact only.role_iff other before

theorem keep {adminId : UInt32} (other : adminId ≠ superId) :
    SuperIs superId (table.keep fun row => row.adminId ≠ adminId) := by
  obtain ⟨top, mem, same⟩ := only.present
  constructor
  · exact ⟨top, mem_keep.mpr ⟨mem, decide_eq_true (same ▸ other.symm)⟩, same⟩
  · intro row kept
    exact only.role_iff row (mem_keep.mp kept).1

end

end SuperIs

theorem exists_superIs {table : AdminTable} (one : table.count isSuper = 1) :
    ∃ superId, SuperIs superId table := by
  rw [count, List.countP_eq_length_filter, List.length_eq_one_iff] at one
  obtain ⟨top, only⟩ := one
  have super_iff (row : AdminAccount) :
      row ∈ table.rows ∧ row.role = .superAdmin ↔ row = top := by
    have member : row ∈ table.rows.filter isSuper ↔ row = top := by
      rw [only, List.mem_singleton]
    simpa [isSuper] using member
  obtain ⟨mem, role⟩ := (super_iff top).mpr rfl
  refine ⟨top.adminId, ⟨top, mem, rfl⟩, fun row member => ⟨fun isSuper => ?_, fun same => ?_⟩⟩
  · rw [(super_iff row).mp ⟨member, isSuper⟩]
  · rw [eq_of_key member mem (congrArg UInt32.toNat same), role]

/-! ## The methods of `Model` -/

structure AdminStore.Guarded (superId : UInt32) (store : AdminStore) : Prop where
  only : SuperIs superId store.table
  counted : ∀ value, store.cache (.roleCount .superAdmin) = some value → atoi value = 1

namespace AdminStore.Guarded

variable {superId : UInt32} {store : AdminStore} {fate : CallFate} {adminId : Int32}

section

variable (guarded : store.Guarded superId)
include guarded

variable {account : AdminAccount}

theorem getAdminByAdminId (found : store.getAdminByAdminId fate adminId = some account) :
    account.role = .superAdmin ↔ account.adminId = superId := by
  rw [AdminStore.getAdminByAdminId, Option.ite_none_left_eq_some] at found
  exact guarded.only.role_iff account (find_eq_some_iff.mp found.2).1

theorem getAdminByUid {uid : Int32} (found : store.getAdminByUid fate uid = some account) :
    account.role = .superAdmin ↔ account.adminId = superId := by
  rw [AdminStore.getAdminByUid, Option.ite_none_left_eq_some] at found
  split at found
  next row alone =>
    cases found.2
    have mem : account ∈ store.table.rows.filter fun row => row.uid = uid.toUInt32 := by
      rw [alone]
      exact List.mem_singleton_self account
    exact guarded.only.role_iff account (List.mem_of_mem_filter mem)
  next => cases found.2

theorem write (command : CommandFate) (key : AdminKey) {value : Option Bytes}
    (right : key = .roleCount .superAdmin → ∀ written, value = some written → atoi written = 1) :
    Guarded superId
      { store with
        cache := command.select store.cache (Function.update store.cache key value) } := by
  have after : ∀ read, Function.update store.cache key value (.roleCount .superAdmin) = some read →
      atoi read = 1 := by
    intro read
    by_cases same : key = .roleCount .superAdmin
    · rw [same, Function.update_self]
      exact right same read
    · rw [Function.update_of_ne (Ne.symm same)]
      exact guarded.counted read
  cases command with
  | answered | replyLost => exact ⟨guarded.only, after⟩
  | notExecuted => exact guarded

theorem deleteString (key : AdminKey) (del : CommandFate) :
    (store.deleteString key del).Guarded superId :=
  guarded.write del key fun _ _ written => absurd written nofun

theorem commit {after : AdminTable} (kept : SuperIs superId after) (firstKey secondKey : AdminKey) :
    (store.commit fate after firstKey secondKey).2.Guarded superId := by
  have committed : Guarded superId
      { store with table := fate.transaction.select store.table after } := by
    cases fate.transaction with
    | answered | replyLost => exact ⟨kept, guarded.counted⟩
    | notExecuted => exact guarded
  unfold AdminStore.commit
  split
  · exact committed
  · exact (committed.deleteString firstKey fate.firstDel).deleteString secondKey fate.secondDel

theorem queryRoleCount : store.queryRoleCount .superAdmin = 1 := by
  have counts : (store.table.count fun row => row.role = .superAdmin) = 1 :=
    guarded.only.count_eq_one
  rw [AdminStore.queryRoleCount, counts]
  rfl

theorem getRoleCount (fate : CallFate) (role : AdminRole) :
    (role = .superAdmin → ∀ count, (store.getRoleCount fate role).1 = some count → count = 1) ∧
      (store.getRoleCount fate role).2.Guarded superId := by
  unfold AdminStore.getRoleCount
  split
  next value cached =>
    refine ⟨?_, guarded⟩
    rintro rfl count answer
    cases answer
    rw [AdminStore.getString, Option.ite_none_left_eq_some] at cached
    exact guarded.counted value cached.2
  next =>
    split
    case isTrue => exact ⟨fun _ count answer => (by cases answer), guarded⟩
    case isFalse =>
      constructor
      · rintro rfl count answer
        rw [← Option.some.inj answer]
        exact guarded.queryRoleCount
      · refine guarded.write fate.set (.roleCount role) fun key written encoded => ?_
        cases key
        rw [← Option.some.inj encoded, guarded.queryRoleCount]
        decide

theorem createAdminAccount (uid : Int32) (passwordHash : Bytes) (role : AdminRole) :
    (store.createAdminAccount fate uid passwordHash role).2.Guarded superId := by
  unfold AdminStore.createAdminAccount
  split
  · exact guarded
  split
  · exact guarded
  next noSuper =>
    split
    · exact guarded
    next accepted =>
      rw [guarded.only.any_isSuper] at noSuper
      simp only [Bool.and_true, decide_eq_true_eq] at noSuper
      simp only [Bool.or_eq_true, not_or, Bool.not_eq_true, Option.isSome_eq_false_iff,
        Option.isNone_iff_eq_none] at accepted
      exact guarded.commit (guarded.only.insert accepted.1 noSuper) _ _

theorem updateAdminRole {newRole : AdminRole}
    (agrees : newRole = .superAdmin ↔ adminId.toUInt32 = superId) :
    (store.updateAdminRole fate adminId newRole).2.Guarded superId := by
  unfold AdminStore.updateAdminRole
  split
  · exact guarded
  split
  · exact guarded
  next item found =>
    have same : item.adminId = adminId.toUInt32 :=
      UInt32.toNat_inj.mp (find_eq_some_iff.mp found).2
    rw [← same] at found agrees
    exact guarded.commit (guarded.only.update found agrees) _ _

theorem deleteAdminAccount (other : adminId.toUInt32 ≠ superId) :
    (store.deleteAdminAccount fate adminId).2.Guarded superId := by
  unfold AdminStore.deleteAdminAccount
  split
  · exact guarded
  split
  · exact guarded
  next item found =>
    have same : item.adminId = adminId.toUInt32 :=
      UInt32.toNat_inj.mp (find_eq_some_iff.mp found).2
    exact guarded.commit (guarded.only.keep (same ▸ other)) _ _

end

end AdminStore.Guarded

/-! ## The handlers -/

def AdminHandler.Safe (superId : UInt32) : AdminHandler → Prop
  | .finished _ => True
  | .getAdminByAdminId _ continuation | .getAdminByUid _ continuation =>
    ∀ answer, (∀ account, answer = some account →
      (account.role = .superAdmin ↔ account.adminId = superId)) →
      (continuation answer).Safe superId
  | .getUserById _ continuation => ∀ found, (continuation found).Safe superId
  | .getRoleCount role continuation =>
    ∀ answer, (role = .superAdmin → ∀ count, answer = some count → count = 1) →
      (continuation answer).Safe superId
  | .createAdminAccount _ _ _ continuation => ∀ created, (continuation created).Safe superId
  | .updateAdminRole adminId newRole continuation =>
    (newRole = .superAdmin ↔ adminId.toUInt32 = superId) ∧
      ∀ updated, (continuation updated).Safe superId
  | .deleteAdminAccount adminId continuation =>
    adminId.toUInt32 ≠ superId ∧ ∀ deleted, (continuation deleted).Safe superId

namespace AdminHandler

variable {superId : UInt32}

theorem safe_fails (code : Nat) (message : String) (retryable : Bool) :
    (fails code message retryable).Safe superId := trivial

theorem safe_requireAdmin {session : Option AdminSession} {admitted : AdminAccount → AdminHandler}
    (rest : ∀ current, (admitted current).Safe superId) :
    (requireAdmin session admitted).Safe superId := by
  unfold requireAdmin
  cases session with
  | none => exact safe_fails _ _ _
  | some =>
    dsimp only
    split
    · exact safe_fails _ _ _
    intro byId _
    cases byId with
    | none => exact safe_fails _ _ _
    | some byId =>
      intro byUid _
      cases byUid with
      | none => exact safe_fails _ _ _
      | some =>
        dsimp only
        split
        · exact safe_fails _ _ _
        split
        · exact safe_fails _ _ _
        · exact rest byId

theorem safe_createAccount (hashing : Hashing) (uid : UInt32) (role : AdminRole) (password : Bytes)
    (random : Option (Fin 16 → UInt8)) :
    (createAccount hashing uid role password random).Safe superId := by
  unfold createAccount
  split
  · exact safe_fails _ _ _
  intro created
  cases created with
  | false => exact safe_fails _ _ _
  | true =>
    intro existing _
    cases existing with
    | none => exact safe_fails _ _ _
    | some => trivial

theorem safe_adminCreateAdminAccount (hashing : Hashing) (session : Option AdminSession)
    (request : SaveAdminAccountRequest) (random : Option (Fin 16 → UInt8)) :
    (adminCreateAdminAccount hashing session request random).Safe superId := by
  refine safe_requireAdmin fun _ => ?_
  split
  · exact safe_fails _ _ _
  intro found
  cases found with
  | false => exact safe_fails _ _ _
  | true =>
    intro existing _
    dsimp only [Bool.not_true]
    split
    · exact safe_fails _ _ _
    split
    · intro count _
      cases count with
      | none => exact safe_fails _ _ _
      | some =>
        dsimp only
        split
        · exact safe_fails _ _ _
        · exact safe_createAccount ..
    · exact safe_createAccount ..

variable {target : AdminAccount}

theorem safe_updateAccount {role : AdminRole}
    (agrees : role = .superAdmin ↔ target.adminId = superId) :
    (updateAccount target role).Safe superId := by
  refine ⟨by rwa [UInt32.toUInt32_toInt32], fun updated => ?_⟩
  cases updated with
  | false => exact safe_fails _ _ _
  | true => trivial

theorem safe_adminUpdateAdminAccount (session : Option AdminSession)
    (request : SaveAdminAccountRequest) :
    (adminUpdateAdminAccount session request).Safe superId := by
  refine safe_requireAdmin fun current => ?_
  split
  · exact safe_fails _ _ _
  next adminId role _ =>
    intro target read
    cases target with
    | none => exact safe_fails _ _ _
    | some target =>
      have known := read target rfl
      dsimp only
      split
      · exact safe_fails _ _ _
      split
      next changes =>
        -- with a count of 1 both directions of a change are refused
        intro superCount counted
        cases superCount with
        | none => exact safe_fails _ _ _
        | some superCount =>
          cases counted rfl superCount rfl
          dsimp only
          split
          · exact safe_fails _ _ _
          next keepsLast =>
            split
            · exact safe_fails _ _ _
            next staysOnly => simp_all [isSuper]
      next unchanged =>
        refine safe_updateAccount (Iff.trans ?_ known)
        by_cases same : target.role = role
        · rw [same]
        · simp_all [isSuper]

theorem safe_deleteAccount (other : target.adminId ≠ superId) :
    (deleteAccount target).Safe superId := by
  refine ⟨by rwa [UInt32.toUInt32_toInt32], fun deleted => ?_⟩
  cases deleted with
  | false => exact safe_fails _ _ _
  | true => trivial

theorem safe_adminDeleteAdminAccount (session : Option AdminSession) (adminId : UInt32) :
    (adminDeleteAdminAccount session adminId).Safe superId := by
  refine safe_requireAdmin fun current => ?_
  split
  · exact safe_fails _ _ _
  intro target read
  cases target with
  | none => exact safe_fails _ _ _
  | some target =>
    dsimp only
    split
    · exact safe_fails _ _ _
    split
    next =>
      intro count counted
      cases count with
      | none => exact safe_fails _ _ _
      | some count =>
        cases counted rfl count rfl
        exact safe_fails _ _ _
    next plain =>
      refine safe_deleteAccount fun same => plain ?_
      exact decide_eq_true ((read target rfl).mpr same)

theorem safe_handler (hashing : Hashing) (request : AdminRequest) :
    (request.handler hashing).Safe superId := by
  cases request with
  | create session request random =>
    exact safe_adminCreateAdminAccount hashing session request random
  | update session request => exact safe_adminUpdateAdminAccount session request
  | delete session adminId => exact safe_adminDeleteAdminAccount session adminId

end AdminHandler

/-! ## Runs -/

variable {ι : Type} [DecidableEq ι] {hashing : Hashing} {superId : UInt32}

structure AdminState.Guarded (superId : UInt32) (s : AdminState ι) : Prop where
  store : s.toAdminStore.Guarded superId
  safe : ∀ i, (s.calls i).Safe superId

variable {s : AdminState ι}

theorem AdminState.Guarded.resume (guarded : s.Guarded superId) (i : ι) {store : AdminStore}
    {rest : AdminHandler} (kept : store.Guarded superId)
    (safe : rest.Safe superId) : (s.resume i store rest).Guarded superId := by
  refine ⟨kept, fun j => ?_⟩
  by_cases same : j = i
  · subst same
    simpa [AdminState.resume] using safe
  · simpa [AdminState.resume, same] using guarded.safe j

theorem AdminState.Guarded.step {s' : AdminState ι} {action : AdminAction ι}
    (guarded : s.Guarded superId) (moved : s.step hashing action = some s') :
    s'.Guarded superId := by
  cases action with
  | request i request =>
    dsimp only [AdminState.step] at moved
    split at moved
    · cases moved
      exact guarded.resume i guarded.store (AdminHandler.safe_handler hashing request)
    · cases moved
  | expire key =>
    cases moved
    exact ⟨guarded.store.deleteString key .answered, guarded.safe⟩
  | call i fate =>
    have safe := guarded.safe i
    dsimp only [AdminState.step] at moved
    split at moved
    next => cases moved
    next adminId continuation pending =>
      cases moved
      rw [pending] at safe
      exact guarded.resume i guarded.store
        (safe _ fun _ found => guarded.store.getAdminByAdminId found)
    next uid continuation pending =>
      cases moved
      rw [pending] at safe
      exact guarded.resume i guarded.store (safe _ fun _ found => guarded.store.getAdminByUid found)
    next uid continuation pending =>
      cases moved
      rw [pending] at safe
      exact guarded.resume i guarded.store (safe _)
    next role continuation pending =>
      cases moved
      rw [pending] at safe
      obtain ⟨answers, kept⟩ := guarded.store.getRoleCount fate role
      exact guarded.resume i kept (safe _ answers)
    next uid passwordHash role continuation pending =>
      cases moved
      rw [pending] at safe
      exact guarded.resume i (guarded.store.createAdminAccount uid passwordHash role) (safe _)
    next adminId newRole continuation pending =>
      cases moved
      rw [pending] at safe
      exact guarded.resume i (guarded.store.updateAdminRole safe.1) (safe.2 _)
    next adminId continuation pending =>
      cases moved
      rw [pending] at safe
      exact guarded.resume i (guarded.store.deleteAdminAccount safe.1) (safe.2 _)

theorem guarded_of_reachable {store : AdminStore} (start : store.Guarded superId)
    (reachable : (adminSystem ι hashing store).Reachable s) : s.Guarded superId := by
  refine reachable.induct ⟨start, fun _ => trivial⟩ ?_
  intro t u action _ moved guarded
  exact guarded.step moved

/-- There is exactly one super administrator at all times, if there is one at the start and a cached
number is right. -/
theorem one_super_admin (hashing : Hashing) (store : AdminStore)
    (one : store.table.count isSuper = 1)
    (correct : ∀ value, store.cache (.roleCount .superAdmin) = some value →
      atoi value = store.table.count isSuper)
    (s : AdminState ι) (reachable : (adminSystem ι hashing store).Reachable s) :
    s.table.count isSuper = 1 := by
  obtain ⟨superId, only⟩ := exists_superIs one
  have start : store.Guarded superId := by
    refine ⟨only, fun value cached => ?_⟩
    rw [correct value cached, one]
    rfl
  exact (guarded_of_reachable start reachable).store.only.count_eq_one

def twoAdmins : AdminStore where
  table :=
    { rows := [⟨1, 7, text "hash", .superAdmin, 0⟩, ⟨2, 8, text "hash", .admin, 0⟩]
      unique := by decide }

/-- An administrator is to be made a super administrator and to be deleted. -/
def updateAndDelete : List (AdminAction Bool) :=
  let session : Option AdminSession := some ⟨1, 7⟩
  let account : AccountMessage := { adminId := 2, role := text "super_admin" }
  [.request false (.update session { account := some account }),
    .request true (.delete session 2),
    .call false {}, .call true {}, .call true {}, .call false {}, .call true {},
    .call false {}, .call false {}, .call true {}]

def twoAdminsSystem : TransitionSystem (AdminState Bool) (AdminAction Bool) :=
  adminSystem Bool ⟨fun _ _ => 0, []⟩ twoAdmins

theorem one_super_admin_of_update_and_delete :
    ∃ s, twoAdminsSystem.Reachable s ∧ s.table.rows.length = 1 ∧
      s.table.count isSuper = 1 := by
  obtain ⟨s, reachable, deleted⟩ :=
    twoAdminsSystem.exists_of_run updateAndDelete
      (fun s => s.table.rows.length = 1) (by decide +kernel)
  have one : s.table.count isSuper = 1 :=
    one_super_admin _ twoAdmins (by decide) nofun s reachable
  exact ⟨s, reachable, of_decide_eq_true deleted, one⟩

end OnlineJudge.Admin
