import OnlineJudge.Accounts.UserTable

/-!
# Sessions of a deleted account

`DeleteAccountWithCode` (`control_auth.hpp`) removes the row of a user and their entry in Redis.
`GetUserById` (`model_user.hpp`) fills the entry without a lock, perhaps afterwards
(`acts_after_deletion`).  What `GetSession` returns is left open.
-/

namespace OnlineJudge.Accounts

open Function

def userKey (uid : Int) : Bytes := text "user:id:" ++ decimalInt uid

/-- The text of a user in Redis.  `read` fails if it does not parse or has no member `uid`. -/
structure UserCodec where
  write : User → Bytes
  read : Bytes → Option User

/-! ## The calls -/

/-- A call of `GetSessionUser`. -/
inductive ReaderPc
  | idle
  /-- Before `GetSession`. -/
  | starting
  /-- `GetUserById`, before `GET`. -/
  | looking (uid : Int)
  | reading (uid : Int)
  | committing (uid : Int) (row : Option User)
  /-- Before `SETEX`. -/
  | filling (uid : Int) (row : User)
  /-- The id in the session, if there is one, and the user if the call returns `true`. -/
  | returned (uid : Option Int) (user : Option User)
  deriving DecidableEq

structure Reader where
  /-- The call has started after `DeleteAccountWithCode` had returned `true`. -/
  late : Bool := false
  pc : ReaderPc := .idle
  deriving DecidableEq

/-- The call of `DeleteAccountWithCode`. -/
inductive DeletionPc
  | idle
  /-- Before `VerifyEmailAuthCode`. -/
  | verifying
  /-- `DeleteUserByEmail`, before the query. -/
  | querying
  | erasing (uid : UInt32)
  | committing (uid : Option UInt32)
  /-- Before `DEL`. -/
  | deletingKey (uid : UInt32)
  | returned (ok : Bool)
  deriving DecidableEq

variable {ι : Type} {collation : Collation}

structure DeletionState (ι : Type) (collation : Collation) where
  now : Int
  cache : ExpiringStore Bytes Bytes Int
  users : UserTable collation
  readers : ι → Reader := fun _ => {}
  deletion : DeletionPc := .idle

namespace DeletionState

variable [DecidableEq ι] (codec : UserCodec) (email : Bytes) (s : DeletionState ι collation)

def setPc (i : ι) (pc : ReaderPc) : DeletionState ι collation :=
  { s with readers := update s.readers i { s.readers i with pc } }

/-- The next command or statement of `GetUserById`; `ttl` is what `BuildJitteredTtl` returns. -/
def advance (i : ι) (ttl : Nat) : Option (DeletionState ι collation) :=
  match (s.readers i).pc with
  | .looking uid =>
    match (s.cache.get s.now (userKey uid)).bind codec.read with
    | some user => some (s.setPc i (.returned (some uid) (some user)))
    | none => some (s.setPc i (.reading uid))
  | .reading uid => some (s.setPc i (.committing uid (s.users.findById uid.toNat.toUInt32)))
  | .committing uid none => some (s.setPc i (.returned (some uid) none))
  | .committing uid (some row) => some (s.setPc i (.filling uid row))
  | .filling uid row =>
    some { s.setPc i (.returned (some uid) (some row)) with
      cache := s.cache.setEx (userKey uid) (codec.write row) (s.now + ttl * 1000) }
  | .idle | .starting | .returned _ _ => none

/-- The next step of the deletion; `ok` says whether the code was right, and whether the server
accepts the `DELETE`. -/
def advanceDeletion (ok : Bool) : Option (DeletionState ι collation) :=
  match s.deletion with
  | .verifying => some { s with deletion := if ok then .querying else .returned false }
  | .querying =>
    match s.users.findByEmail email with
    | some user => some { s with deletion := .erasing user.uid }
    | none => some { s with deletion := .committing none }
  | .erasing uid =>
    if ok && (s.users.findById uid).isSome then
      some { s with deletion := .committing (some uid) }
    else some { s with deletion := .returned false }
  | .committing none => some { s with deletion := .returned true }
  | .committing (some uid) =>
    some { s with
      users := s.users.erase uid
      deletion := if uid ≠ 0 then .deletingKey uid else .returned true }
  | .deletingKey uid =>
    some { s with cache := s.cache.del (userKey uid.toNat), deletion := .returned true }
  | .idle | .returned _ => none

end DeletionState

inductive DeletionAction (ι : Type)
  | start (i : ι)
  /-- `GetSession` returns the id of a session, or nothing. -/
  | session (i : ι) (found : Option Int)
  | advance (i : ι) (ttl : Nat)
  | delete
  | advanceDeletion (ok : Bool)
  | tick (now : Int)
  deriving DecidableEq

variable [DecidableEq ι]

def DeletionState.step (codec : UserCodec) (email : Bytes) (s : DeletionState ι collation) :
    DeletionAction ι → Option (DeletionState ι collation)
  | .start i =>
    match (s.readers i).pc with
    | .idle | .returned _ _ =>
      some { s with
        readers := update s.readers i ⟨s.deletion = .returned true, .starting⟩ }
    | _ => none
  | .session i found =>
    match (s.readers i).pc, found with
    | .starting, none => some (s.setPc i (.returned none none))
    | .starting, some uid =>
      if uid ≤ 0 then some (s.setPc i (.returned (some uid) none))
      else some (s.setPc i (.looking uid))
    | _, _ => none
  | .advance i ttl => s.advance codec i ttl
  | .delete => if s.deletion = .idle then some { s with deletion := .verifying } else none
  | .advanceDeletion ok => s.advanceDeletion email ok
  | .tick now => if s.now ≤ now then some { s with now } else none

def deletionSystem (ι : Type) [DecidableEq ι] (codec : UserCodec) (email : Bytes) (now : Int)
    (cache : ExpiringStore Bytes Bytes Int) (users : UserTable collation) :
    TransitionSystem (DeletionState ι collation) (DeletionAction ι) where
  initial := { now, cache, users }
  step := DeletionState.step codec email

/-- A reader puts the row of the user into Redis only while the deletion has not removed the
entry. -/
def timely (user : User) (s : DeletionState ι collation) : DeletionAction ι → Bool
  | .advance i _ =>
    match (s.readers i).pc with
    | .filling uid _ => uid ≠ user.uid.toNat || s.deletion ≠ .returned true
    | _ => true
  | _ => true

/-! ## The deletion is final -/

variable {user : User} {email : Bytes} {codec : UserCodec} {s t : DeletionState ι collation}

def Deleting (user : User) (email : Bytes) (s : DeletionState ι collation) : Prop :=
  match s.deletion with
  | .idle | .verifying | .querying => s.users.findByEmail email = some user
  | .erasing uid => uid = user.uid
  | .committing uid => uid = some user.uid
  | .deletingKey uid => uid = user.uid ∧ s.users.findById user.uid = none
  | .returned true => s.users.findById user.uid = none ∧
      (user.uid ≠ 0 → s.cache (userKey user.uid.toNat) = none)
  | .returned false => True

omit [DecidableEq ι] in
theorem Deleting.congr (deleting : Deleting user email s) (deletion : t.deletion = s.deletion)
    (users : t.users = s.users)
    (cache : s.deletion = .returned true →
      t.cache (userKey user.uid.toNat) = s.cache (userKey user.uid.toNat)) :
    Deleting user email t := by
  unfold Deleting at deleting ⊢
  rw [deletion, users]
  split at deleting <;> try exact deleting
  rename_i returned
  rw [cache returned]
  exact deleting

def ReaderPc.Harmless (user : User) : ReaderPc → Prop
  | .looking uid => 0 < uid
  | .committing uid row => uid = user.uid.toNat → row = none
  | .filling uid _ => uid ≠ user.uid.toNat
  | .returned (some uid) result => uid = user.uid.toNat → result = none
  | .idle | .starting | .reading _ | .returned none _ => True

omit [DecidableEq ι] in
theorem DeletionState.of_advanceDeletion {ok : Bool} (step : s.advanceDeletion email ok = some t) :
    t.readers = s.readers ∧ s.deletion ≠ .returned true := by
  unfold advanceDeletion at step
  constructor
  · repeat' split at step
    all_goals cases step <;> rfl
  · intro done
    simp [done] at step

structure Final (user : User) (email : Bytes) (s : DeletionState ι collation) : Prop where
  deleting : Deleting user email s
  late : ∀ i, (s.readers i).late = true →
    s.deletion = .returned true ∧ (s.readers i).pc.Harmless user

namespace Final

theorem setPc (final : Final user email s) (i : ι) {pc : ReaderPc}
    (harmless : (s.readers i).late = true → s.deletion = .returned true →
      (s.readers i).pc.Harmless user → pc.Harmless user) : Final user email (s.setPc i pc) := by
  refine ⟨final.deleting, fun j late => ?_⟩
  by_cases same : j = i
  · subst same
    simp only [DeletionState.setPc, update_self] at late ⊢
    obtain ⟨returned, before⟩ := final.late j late
    exact ⟨returned, harmless late returned before⟩
  · simp only [DeletionState.setPc, update_of_ne same] at late ⊢
    exact final.late j late

theorem advance (final : Final user email s) {i : ι} {ttl : Nat}
    (ok : timely user s (.advance i ttl) = true) (step : s.advance codec i ttl = some t) :
    Final user email t := by
  unfold DeletionState.advance at step
  cases pc : (s.readers i).pc with
  | looking uid =>
    simp only [pc] at step
    split at step
    · rename_i found hit
      cases step
      refine final.setPc i fun late returned harmless same => ?_
      -- there is no entry to be found
      rw [pc] at harmless
      have positive : 0 < uid := harmless
      have deleting := final.deleting
      rw [Deleting, returned] at deleting
      have present : user.uid ≠ 0 := by
        rintro zero
        rw [same, zero] at positive
        exact absurd positive (by decide)
      have gone := ExpiringStore.get_of_none (deleting.2 present) s.now
      rw [same, gone] at hit
      cases hit
    · cases step
      exact final.setPc i fun _ _ _ => trivial
  | reading =>
    simp only [pc] at step
    cases step
    refine final.setPc i fun _ returned _ same => ?_
    have deleting := final.deleting
    rw [Deleting, returned] at deleting
    rw [same, Int.toNat_natCast, Nat.toUInt32, UInt32.ofNat_toNat]
    exact deleting.1
  | committing uid row =>
    cases row with simp only [pc] at step
    | none =>
      cases step
      exact final.setPc i fun _ _ _ _ => rfl
    | some =>
      cases step
      refine final.setPc i fun _ _ harmless same => ?_
      rw [pc] at harmless
      cases harmless same
  | filling uid row =>
    simp only [pc] at step
    cases step
    have moved : Final user email (s.setPc i (.returned (some uid) (some row))) := by
      refine final.setPc i fun _ _ harmless same => ?_
      rw [pc] at harmless
      exact absurd same harmless
    refine ⟨?_, moved.late⟩
    refine final.deleting.congr rfl rfl fun returned => ExpiringStore.setEx_of_ne ?_ _ _
    simp only [timely, pc, returned, ne_eq, not_true_eq_false, decide_false, Bool.or_false,
      decide_not, Bool.not_eq_true', decide_eq_false_iff_not] at ok
    exact fun same => ok (decimalInt_injective (List.append_cancel_left same)).symm
  | _ => simp only [pc] at step; cases step

omit [DecidableEq ι] in
theorem advanceDeletion (final : Final user email s) {ok : Bool}
    (step : s.advanceDeletion email ok = some t) : Final user email t := by
  have deleting := final.deleting
  have early : ∀ i, (t.readers i).late = true → False := by
    intro i late
    obtain ⟨readers, ongoing⟩ := DeletionState.of_advanceDeletion step
    rw [readers] at late
    exact ongoing (final.late i late).1
  refine ⟨?_, fun i late => (early i late).elim⟩
  unfold DeletionState.advanceDeletion at step
  unfold Deleting at deleting
  cases pc : s.deletion with
  | idle | returned => simp only [pc] at step; cases step
  | verifying =>
    simp only [pc] at step deleting
    cases step
    cases ok with
    | true => exact deleting
    | false => trivial
  | querying =>
    simp only [pc] at step deleting
    simp only [deleting] at step
    cases step
    rfl
  | erasing =>
    simp only [pc] at step deleting
    split at step
    · cases step
      exact congrArg some deleting
    · cases step
      trivial
  | committing uid =>
    simp only [pc] at step deleting
    subst deleting
    cases step
    by_cases zero : user.uid = 0
    · simp only [Deleting, zero, ne_eq, not_true_eq_false, if_false]
      exact ⟨UserTable.findById_erase _, False.elim⟩
    · simp only [Deleting, zero, ne_eq, not_false_eq_true, if_true]
      exact ⟨trivial, UserTable.findById_erase _⟩
  | deletingKey =>
    simp only [pc] at step deleting
    cases step
    obtain ⟨rfl, gone⟩ := deleting
    exact ⟨gone, fun _ => ExpiringStore.del_self ..⟩

theorem step (final : Final user email s) {action : DeletionAction ι}
    (ok : timely user s action = true) (step : s.step codec email action = some t) :
    Final user email t := by
  cases action with simp only [DeletionState.step] at step
  | start i =>
    have begun : t = { s with
        readers := update s.readers i ⟨s.deletion = .returned true, .starting⟩ } := by
      split at step <;> cases step <;> rfl
    subst begun
    refine ⟨final.deleting, fun j late => ?_⟩
    by_cases same : j = i
    · subst same
      simp only [update_self, decide_eq_true_eq] at late ⊢
      exact ⟨late, trivial⟩
    · simp only [update_of_ne same] at late ⊢
      exact final.late j late
  | session i found =>
    split at step
    · cases step
      exact final.setPc i fun _ _ _ => trivial
    · split at step
      · cases step
        exact final.setPc i fun _ _ _ _ => rfl
      · rename_i positive
        cases step
        exact final.setPc i fun _ _ _ => Int.not_le.mp positive
    · cases step
  | advance => exact final.advance ok step
  | delete =>
    split at step
    · rename_i idle
      cases step
      have deleting := final.deleting
      rw [Deleting, idle] at deleting
      refine ⟨deleting, fun i late => ?_⟩
      have returned := (final.late i late).1
      rw [idle] at returned
      cases returned
    · cases step
  | advanceDeletion => exact final.advanceDeletion step
  | tick =>
    split at step
    · cases step
      exact ⟨final.deleting, final.late⟩
    · cases step

end Final

/-- **A deleted account cannot act**, where no reader puts the row into Redis after the deletion has
removed the entry. -/
theorem deleted_account_cannot_act {users : UserTable collation}
    {cache : ExpiringStore Bytes Bytes Int} {now : Int}
    (found : users.findByEmail email = some user)
    (reachable : (deletionSystem ι codec email now cache users).ReachableUnder
      (fun s action => timely user s action = true) s) {i : ι}
    (late : (s.readers i).late = true) {result : Option User}
    (returned : (s.readers i).pc = .returned (some user.uid.toNat) result) : result = none := by
  have final : Final user email s :=
    TransitionSystem.ReachesUnder.induct reachable ⟨found, nofun⟩
      fun _ ok step final => final.step ok step
  have harmless := (final.late i late).2
  rw [returned] at harmless
  exact harmless rfl

/-! ### A session of a deleted user -/

def sampleCodec : UserCodec where
  write user := user.email
  read cached := some { sampleUser with email := cached }

def sampleSystem : TransitionSystem (DeletionState Bool .ignoringCase) (DeletionAction Bool) :=
  deletionSystem Bool sampleCodec sampleUser.email 0 (fun _ => none)
    ⟨[sampleUser], by decide, by decide +kernel⟩

def useSession (i : Bool) (steps : Nat) : List (DeletionAction Bool) :=
  [.start i, .session i (some 1)] ++ List.replicate steps (.advance i 3600)

def deleteAccount : List (DeletionAction Bool) :=
  .delete :: List.replicate 5 (.advanceDeletion true)

theorem deleted_account_cannot_act_later : ∃ s : DeletionState Bool .ignoringCase, ∃ result,
    sampleSystem.ReachableUnder (fun s action => timely sampleUser s action = true) s ∧
      (s.readers true).late = true ∧
      (s.readers true).pc = .returned (some sampleUser.uid.toNat) result ∧ result = none := by
  obtain ⟨s, reachable, checked⟩ := sampleSystem.exists_of_runUnder (timely sampleUser)
    (useSession false 4 ++ deleteAccount ++ useSession true 3)
    (fun s => (s.readers true).late && (s.readers true).pc = .returned (some 1) none)
    (by decide +kernel)
  simp only [Bool.and_eq_true, decide_eq_true_eq] at checked
  exact ⟨s, none, reachable, checked.1, checked.2,
    deleted_account_cannot_act rfl reachable checked.1 checked.2⟩

/-- A call has read the row before the deletion and puts it into Redis after it. -/
theorem acts_after_deletion : ∃ s : DeletionState Bool .ignoringCase,
    sampleSystem.Reachable s ∧ s.deletion = .returned true ∧ (s.readers true).late = true ∧
      (s.readers true).pc = .returned (some sampleUser.uid.toNat) (some sampleUser) := by
  obtain ⟨s, reachable, checked⟩ := sampleSystem.exists_of_run
    (useSession false 3 ++ deleteAccount ++ [.advance false 3600] ++ useSession true 1)
    (fun s => s.deletion = .returned true && (s.readers true).late &&
      (s.readers true).pc = .returned (some 1) (some sampleUser))
    (by decide +kernel)
  simp only [Bool.and_eq_true, decide_eq_true_eq] at checked
  exact ⟨s, reachable, checked.1.1, checked.1.2, checked.2⟩

end OnlineJudge.Accounts
