import OnlineJudge.Accounts.AuthCodes
import OnlineJudge.Common.Decimal

/-!
# Sessions

`SessionManager` (`oj_session.hpp`) keeps a session as a hash in Redis, or in a map of its own where
Redis has failed.  Commands of different managers interleave, and each may throw.  A renewal after
`DEL` leaves a hash with one field of five, which is refused.
-/

namespace OnlineJudge.Accounts

open Function

/-! ## A session in Redis -/

structure Session where
  sessionId : Bytes
  userId : Int
  email : Bytes
  createTime : Int
  lastAccessTime : Int
  deriving DecidableEq

/-- The fields of a hash; `others` is the number of those that no session has. -/
structure SessionHash where
  sessionId : Option Bytes := none
  userId : Option Bytes := none
  email : Option Bytes := none
  createTime : Option Bytes := none
  lastAccessTime : Option Bytes := none
  others : Nat := 0
  deriving DecidableEq

def buildSessionKey (sessionId : Bytes) : Bytes := text "oj:prod:v1:session:user:" ++ sessionId

theorem buildSessionKey_injective : Injective buildSessionKey :=
  fun _ _ same => List.append_cancel_left same

def sessionExpireSeconds : Int := 7 * 24 * 60 * 60

namespace SessionHash

def hmset (session : Session) (old : Option SessionHash) : SessionHash :=
  { old.getD {} with
    sessionId := some session.sessionId
    userId := some (decimalInt session.userId)
    email := some session.email
    createTime := some (decimalInt session.createTime)
    lastAccessTime := some (decimalInt session.lastAccessTime) }

/-- `HSET` of `last_access_time`. -/
def touch (time : Int) (old : Option SessionHash) : SessionHash :=
  { old.getD {} with lastAccessTime := some (decimalInt time) }

/-- The checks of `GetSessionFromRedis`: the user, the address, and the two times. -/
def checked (hash : SessionHash) (id : Bytes) : Option (Int × Bytes × Int × Int) := do
  let storedId ← hash.sessionId
  let userId ← hash.userId
  let email ← hash.email
  let createTime ← hash.createTime
  let lastAccessTime ← hash.lastAccessTime
  guard (hash.others = 0)
  guard (storedId = id && !email.isEmpty && email.length ≤ 320)
  let userId ← parseInteger (-2147483648) 2147483647 userId
  guard (0 < userId)
  let createTime ← parseInteger (-9223372036854775808) 9223372036854775807 createTime
  guard (0 < createTime)
  let lastAccessTime ← parseInteger (-9223372036854775808) 9223372036854775807 lastAccessTime
  guard (createTime ≤ lastAccessTime)
  return (userId, email, createTime, lastAccessTime)

/-- What `GetSessionFromRedis` takes from the hash of a session. -/
def session (hash : SessionHash) (id : Bytes) : Option Session :=
  (hash.checked id).map fun (userId, email, createTime, lastAccessTime) =>
    { sessionId := id, userId, email, createTime, lastAccessTime }

end SessionHash

open SessionHash

/-! ## The managers -/

inductive SessionCall
  | idle
  /-- `CreateSession`, before `GenerateSessionId` and `HMSET`. -/
  | creating (userId : Int) (email : Bytes)
  /-- Before `EXPIRE`. -/
  | keeping (session : Session)
  /-- `CreateSession` has returned; `none` is the empty string. -/
  | created (id : Option Bytes)
  /-- `GetSession`, before `HGETALL`. -/
  | reading (id : Bytes)
  /-- Before `HSET`. -/
  | touching (session : Session)
  /-- Before `EXPIRE`. -/
  | renewing (session : Session)
  /-- `GetSession` has returned; `none` is `false`. -/
  | got (id : Bytes) (session : Option Session)
  /-- `DestroySession`, before `DEL`. -/
  | destroying (id : Bytes)
  | destroyed (id : Bytes) (result : Bool)
  deriving DecidableEq

def SessionCall.returned : SessionCall → Bool
  | .idle | .created _ | .got .. | .destroyed .. => true
  | .creating .. | .keeping _ | .reading _ | .touching _ | .renewing _ | .destroying _ => false

structure Manager where
  sessions : Bytes → Option Session := fun _ => none
  call : SessionCall := .idle

namespace Manager

variable (manager : Manager)

def insert (session : Session) : Manager :=
  { manager with sessions := update manager.sessions session.sessionId (some session) }

def erase (id : Bytes) : Manager :=
  { manager with sessions := update manager.sessions id none }

def goTo (call : SessionCall) : Manager := { manager with call }

/-- `GetSession` after Redis has failed. -/
def fallBack (id : Bytes) (clock : Int) : Manager :=
  match manager.sessions id with
  | none => manager.goTo (.got id none)
  | some session =>
    if clock - session.lastAccessTime > sessionExpireSeconds then
      (manager.erase id).goTo (.got id none)
    else
      let renewed := { session with lastAccessTime := clock }
      { manager with
        sessions := update manager.sessions id (some renewed)
        call := .got id (some renewed) }

end Manager

open Manager

/-! ## The steps -/

/-- Redis and the managers.  `used` are the ids that a call was made with or has drawn. -/
structure SessionState (ι : Type) where
  now : Int
  redis : ExpiringStore Bytes SessionHash Int
  managers : ι → Manager
  used : List Bytes

variable {ι : Type} [DecidableEq ι]

namespace SessionState

variable (s : SessionState ι)

def setManager (i : ι) (manager : Manager) : SessionState ι :=
  { s with managers := update s.managers i manager }

def expireKey (id : Bytes) : ExpiringStore Bytes SessionHash Int :=
  s.redis.expire s.now (buildSessionKey id) (s.now + sessionExpireSeconds)

/-- The next command of a call, and the code after it.  `clock` is what `time` returns, and `drawn`
what `GenerateSessionId` does. -/
def command (i : ι) (fate : CommandFate) (clock : Int) (drawn : Option Bytes) :
    Option (SessionState ι) :=
  let manager := s.managers i
  match manager.call with
  | .creating userId email =>
    match drawn with
    | none => some (s.setManager i (manager.goTo (.created none)))
    | some id =>
      if s.used.contains id then none
      else
        let session : Session := ⟨id, userId, email, clock, clock⟩
        let redis := fate.select s.redis (s.redis.modify s.now (buildSessionKey id) (hmset session))
        let after :=
          if fate.throws then (manager.insert session).goTo (.created (some id))
          else manager.goTo (.keeping session)
        some { s.setManager i after with redis, used := id :: s.used }
  | .keeping session =>
    let after :=
      if fate.throws then (manager.insert session).goTo (.created (some session.sessionId))
      else manager.goTo (.created (some session.sessionId))
    some { s.setManager i after with
      redis := fate.select s.redis (s.expireKey session.sessionId) }
  | .reading id =>
    let after :=
      if fate.throws then manager.fallBack id clock
      else
        match (s.redis.get s.now (buildSessionKey id)).bind (·.session id) with
        | none => (manager.erase id).goTo (.got id none)
        | some session => manager.goTo (.touching { session with lastAccessTime := clock })
    some (s.setManager i after)
  | .touching session =>
    let after :=
      if fate.throws then manager.fallBack session.sessionId clock
      else manager.goTo (.renewing session)
    some { s.setManager i after with
      redis := fate.select s.redis
        (s.redis.modify s.now (buildSessionKey session.sessionId)
          (touch session.lastAccessTime)) }
  | .renewing session =>
    let after :=
      if fate.throws then manager.fallBack session.sessionId clock
      else manager.goTo (.got session.sessionId (some session))
    some { s.setManager i after with
      redis := fate.select s.redis (s.expireKey session.sessionId) }
  | .destroying id =>
    some { s.setManager i ((manager.erase id).goTo (.destroyed id !fate.throws)) with
      redis := fate.select s.redis (s.redis.del (buildSessionKey id)) }
  | .idle | .created _ | .got .. | .destroyed .. => none

/-- A call takes `_mtx`. -/
def start (i : ι) (call : SessionCall) : Option (SessionState ι) :=
  if (s.managers i).call.returned then some (s.setManager i ((s.managers i).goTo call)) else none

def name (id : Bytes) : SessionState ι := { s with used := id :: s.used }

end SessionState

open SessionState

inductive SessionAction (ι : Type)
  | create (i : ι) (userId : Int) (email : Bytes)
  | get (i : ι) (id : Bytes)
  | destroy (i : ι) (id : Bytes)
  | command (i : ι) (fate : CommandFate) (clock : Int) (drawn : Option Bytes)
  | tick (now : Int)

def SessionState.step (s : SessionState ι) : SessionAction ι → Option (SessionState ι)
  | .create i userId email => s.start i (.creating userId email)
  | .get i id => (s.name id).start i (.reading id)
  | .destroy i id => (s.name id).start i (.destroying id)
  | .command i fate clock drawn => s.command i fate clock drawn
  | .tick now => if s.now ≤ now then some { s with now } else none

def sessionSystem (ι : Type) [DecidableEq ι] (redis : ExpiringStore Bytes SessionHash Int)
    (now : Int) : TransitionSystem (SessionState ι) (SessionAction ι) where
  initial := { now, redis, managers := fun _ => {}, used := [] }
  step := step

/-! ## After a logout -/

def SessionCall.Finds (id : Bytes) : SessionCall → Prop
  | .keeping session | .touching session | .renewing session => session.sessionId = id
  | .got other (some _) => other = id
  | _ => False

namespace Manager

structure Lacks (manager : Manager) (id : Bytes) : Prop where
  sessions : manager.sessions id = none
  call : ¬ manager.call.Finds id

variable {manager : Manager} {id other : Bytes}

theorem Lacks.goTo (lacks : manager.Lacks id) (call : SessionCall) (spares : ¬ call.Finds id) :
    (manager.goTo call).Lacks id :=
  ⟨lacks.sessions, spares⟩

theorem Lacks.erase (lacks : manager.Lacks id) (other : Bytes) :
    (manager.erase other).Lacks id := by
  refine ⟨?_, lacks.call⟩
  by_cases same : id = other
  · subst same
    exact update_self ..
  · exact (update_of_ne same ..).trans lacks.sessions

theorem Lacks.insert (lacks : manager.Lacks id) {session : Session}
    (different : session.sessionId ≠ id) : (manager.insert session).Lacks id :=
  ⟨(update_of_ne different.symm ..).trans lacks.sessions, lacks.call⟩

theorem Lacks.fallBack (lacks : manager.Lacks id) (other : Bytes) (clock : Int) :
    (manager.fallBack other clock).Lacks id := by
  unfold Manager.fallBack
  split
  · exact lacks.goTo (.got other none) not_false
  rename_i session present
  have different : other ≠ id := by
    rintro rfl
    rw [lacks.sessions] at present
    cases present
  split
  · exact (lacks.erase other).goTo (.got other none) not_false
  · exact ⟨(update_of_ne different.symm ..).trans lacks.sessions, different⟩

end Manager

/-- The session is neither in Redis nor with a manager; what is left in Redis is not complete. -/
structure Gone (i : ι) (id : Bytes) (s : SessionState ι) : Prop where
  redis : s.redis.Only (fun hash => hash.sessionId = none) (buildSessionKey id)
  manager : (s.managers i).Lacks id
  used : id ∈ s.used

omit [DecidableEq ι] in
theorem only_select {P : SessionHash → Prop} {before after : ExpiringStore Bytes SessionHash Int}
    {key : Bytes} (fate : CommandFate) (first : before.Only P key) (second : after.Only P key) :
    ExpiringStore.Only P (fate.select before after) key := by
  cases fate with
  | answered | replyLost => exact second
  | notExecuted => exact first

variable {drawn : Option Bytes} {fate : CommandFate} {clock : Int}

namespace Gone

variable {i j : ι} {id : Bytes} {s t : SessionState ι}

theorem set (gone : Gone i id s) {manager : Manager} {redis : ExpiringStore Bytes SessionHash Int}
    {used : List Bytes} (lacks : j = i → manager.Lacks id)
    (only : redis.Only (fun hash => hash.sessionId = none) (buildSessionKey id))
    (grows : ∀ other ∈ s.used, other ∈ used) :
    Gone i id { s.setManager j manager with redis, used } := by
  refine ⟨only, ?_, grows id gone.used⟩
  by_cases same : i = j
  · subst same
    change (update s.managers i manager i).Lacks id
    rw [update_self]
    exact lacks rfl
  · change (update s.managers j manager i).Lacks id
    rw [update_of_ne same]
    exact gone.manager

omit [DecidableEq ι] in
theorem touch (gone : Gone i id s) (other : Bytes) (time : Int) :
    ExpiringStore.Only (fun hash => hash.sessionId = none)
      (s.redis.modify s.now (buildSessionKey other) (touch time))
      (buildSessionKey id) := by
  by_cases same : id = other
  · subst same
    exact gone.redis.modify s.now rfl fun hash incomplete => incomplete
  · exact gone.redis.modify_of_ne (buildSessionKey_injective.ne same) s.now _

omit [DecidableEq ι] in
theorem not_read (gone : Gone i id s) :
    (s.redis.get s.now (buildSessionKey id)).bind (·.session id) = none := by
  rw [Option.bind_eq_none_iff]
  intro hash found
  rw [session, checked, gone.redis.of_get found]
  rfl

theorem command (gone : Gone i id s)
    (step : s.command j fate clock drawn = some t) : Gone i id t := by
  -- what the call of this manager does not find, if it is the manager
  have spares : j = i → ¬ (s.managers j).call.Finds id := by
    rintro rfl
    exact gone.manager.call
  have lacks : j = i → (s.managers j).Lacks id := by
    rintro rfl
    exact gone.manager
  simp only [SessionState.command] at step
  generalize (s.managers j).call = call at spares step
  cases call with
  | creating userId email =>
    cases drawn with
    | none =>
      cases step
      exact gone.set (fun same => (lacks same).goTo (.created none) not_false) gone.redis
        fun _ mem => mem
    | some new =>
      dsimp only at step
      split at step
      · cases step
      rename_i fresh
      cases step
      have different : new ≠ id := by
        rintro rfl
        exact fresh (List.contains_iff_mem.mpr gone.used)
      refine gone.set (fun same => ?_) (only_select fate gone.redis
        (gone.redis.modify_of_ne (buildSessionKey_injective.ne different.symm) s.now _))
        fun _ mem => List.mem_cons_of_mem _ mem
      split
      · exact ((lacks same).insert different).goTo (.created (some new)) not_false
      · exact (lacks same).goTo (.keeping _) different
  | keeping session =>
    cases step
    refine gone.set (fun same => ?_) (only_select fate gone.redis (gone.redis.expire _ _ _))
      fun _ mem => mem
    have different : session.sessionId ≠ id := spares same
    split
    · exact ((lacks same).insert different).goTo (.created _) not_false
    · exact (lacks same).goTo (.created _) not_false
  | reading other =>
    cases step
    refine gone.set (fun same => ?_) gone.redis fun _ mem => mem
    split
    · exact (lacks same).fallBack other clock
    split
    · exact ((lacks same).erase other).goTo (.got other none) not_false
    rename_i session read
    refine (lacks same).goTo (.touching _) ?_
    rintro rfl
    obtain ⟨hash, found, read⟩ := Option.bind_eq_some_iff.mp read
    have is_other : session.sessionId = other := by
      obtain ⟨_, _, rfl⟩ := Option.map_eq_some_iff.mp read
      rfl
    have unread := gone.not_read
    rw [is_other, found, Option.bind_some, read] at unread
    cases unread
  | touching session =>
    cases step
    refine gone.set (fun same => ?_) (only_select fate gone.redis (gone.touch _ _)) fun _ mem => mem
    split
    · exact (lacks same).fallBack _ clock
    · exact (lacks same).goTo (.renewing session) (spares same)
  | renewing session =>
    cases step
    refine gone.set (fun same => ?_) (only_select fate gone.redis (gone.redis.expire _ _ _))
      fun _ mem => mem
    split
    · exact (lacks same).fallBack _ clock
    · exact (lacks same).goTo (.got _ (some session)) (spares same)
  | destroying other =>
    cases step
    refine gone.set (fun same => ((lacks same).erase other).goTo (.destroyed other _)
      not_false) (only_select fate gone.redis ?_) fun _ mem => mem
    by_cases same : id = other
    · subst same
      exact ExpiringStore.only_del _ _ _
    · exact gone.redis.update_of_ne (buildSessionKey_injective.ne same) none
  | _ => cases step

theorem start (gone : Gone i id s) (call : SessionCall) (fresh : ¬ call.Finds id)
    (step : s.start j call = some t) : Gone i id t := by
  unfold SessionState.start at step
  split at step
  · cases step
    refine gone.set (fun same => ?_) gone.redis fun _ mem => mem
    subst same
    exact gone.manager.goTo call fresh
  · cases step

omit [DecidableEq ι] in
theorem name (gone : Gone i id s) (other : Bytes) : Gone i id (s.name other) :=
  ⟨gone.redis, gone.manager, List.mem_cons_of_mem _ gone.used⟩

theorem step (gone : Gone i id s) {action : SessionAction ι} (taken : s.step action = some t) :
    Gone i id t := by
  cases action with
  | create j userId email => exact gone.start (.creating userId email) not_false taken
  | get j other => exact (gone.name other).start (.reading other) not_false taken
  | destroy j other => exact (gone.name other).start (.destroying other) not_false taken
  | command => exact gone.command taken
  | tick =>
    simp only [SessionState.step] at taken
    split at taken
    · cases taken
      exact ⟨gone.redis, gone.manager, gone.used⟩
    · cases taken

end Gone

/-! ## Every logout -/

theorem Manager.call_fallBack (manager : Manager) (id : Bytes) (clock : Int) :
    ∃ found, (manager.fallBack id clock).call = .got id found := by
  unfold fallBack
  split
  · exact ⟨none, rfl⟩
  split
  · exact ⟨none, rfl⟩
  · exact ⟨some _, rfl⟩

def SessionCall.deletes : SessionCall → Bool
  | .destroying _ | .destroyed .. => true
  | _ => false

theorem Manager.deletes_fallBack (manager : Manager) (id : Bytes) (clock : Int) :
    (manager.fallBack id clock).call.deletes = false := by
  obtain ⟨found, at_call⟩ := manager.call_fallBack id clock
  rw [at_call]
  rfl

variable {i j : ι} {id : Bytes} {s t : SessionState ι}

theorem command_spec (step : s.command j fate clock drawn = some t) :
    (∀ other ∈ s.used, other ∈ t.used) ∧ (∀ i, i ≠ j → t.managers i = s.managers i) ∧
      ((t.managers j).call.deletes = false ∨
        ∃ id, (s.managers j).call = .destroying id ∧
          t = { s.setManager j (((s.managers j).erase id).goTo (.destroyed id !fate.throws)) with
            redis := fate.select s.redis (s.redis.del (buildSessionKey id)) }) := by
  simp only [command] at step
  generalize (s.managers j).call = call at step ⊢
  cases call with
  | creating =>
    cases drawn with
    | none =>
      cases step
      refine ⟨fun _ mem => mem, fun i other => update_of_ne other .., Or.inl ?_⟩
      simp [setManager, goTo, SessionCall.deletes]
    | some =>
      dsimp only at step
      split at step
      · cases step
      cases step
      refine ⟨fun _ mem => List.mem_cons_of_mem _ mem,
        fun i other => update_of_ne other .., Or.inl ?_⟩
      cases fate <;> simp [setManager, goTo, SessionCall.deletes, CommandFate.throws]
  | keeping =>
    cases step
    refine ⟨fun _ mem => mem, fun i other => update_of_ne other .., Or.inl ?_⟩
    cases fate <;> simp [setManager, goTo, SessionCall.deletes, CommandFate.throws]
  | reading other =>
    cases step
    refine ⟨fun _ mem => mem, fun i other => update_of_ne other .., Or.inl ?_⟩
    simp only [setManager, update_self]
    split
    · exact deletes_fallBack ..
    · split <;> rfl
  | touching session | renewing session =>
    cases step
    refine ⟨fun _ mem => mem, fun i other => update_of_ne other .., Or.inl ?_⟩
    simp only [setManager, update_self]
    split
    · exact deletes_fallBack ..
    · rfl
  | destroying other =>
    cases step
    exact ⟨fun _ mem => mem, fun i other => update_of_ne other .., Or.inr ⟨other, rfl, rfl⟩⟩
  | _ => cases step

structure Deleted (s : SessionState ι) : Prop where
  named : ∀ {i id}, (s.managers i).call = .destroying id → id ∈ s.used
  gone : ∀ {i id}, (s.managers i).call = .destroyed id true → Gone i id s

namespace Deleted

theorem start (deleted : Deleted s) (call : SessionCall)
    (named : ∀ id, call = .destroying id → id ∈ s.used)
    (fresh : ∀ id, call ≠ .destroyed id true) (step : s.start j call = some t) : Deleted t := by
  have after : t = s.setManager j ((s.managers j).goTo call) := by
    unfold SessionState.start at step
    split at step
    · exact (Option.some.inj step).symm
    · cases step
  have elsewhere : ∀ i, i ≠ j → t.managers i = s.managers i := by
    intro i different
    rw [after]
    exact update_of_ne different ..
  have here : (t.managers j).call = call := by
    rw [after]
    simp [setManager, goTo]
  have same_used : t.used = s.used := by
    rw [after]
    rfl
  constructor
  · intro i id deleting
    rw [same_used]
    by_cases same : i = j
    · subst same
      exact named id (here.symm.trans deleting)
    · rw [elsewhere i same] at deleting
      exact deleted.named deleting
  · intro i id done
    by_cases same : i = j
    · subst same
      exact absurd (here.symm.trans done) (fresh id)
    have before := done
    rw [elsewhere i same] at before
    have gone := deleted.gone before
    rw [after] at done ⊢
    exact gone.set (fun is_i => absurd is_i.symm same) gone.redis fun _ mem => mem

omit [DecidableEq ι] in
theorem name (deleted : Deleted s) (id : Bytes) : Deleted (s.name id) :=
  ⟨fun deleting => List.mem_cons_of_mem _ (deleted.named deleting),
    fun done => (deleted.gone done).name id⟩

theorem command (deleted : Deleted s)
    (step : s.command j fate clock drawn = some t) : Deleted t := by
  obtain ⟨grows, elsewhere, kind⟩ := command_spec step
  constructor
  · intro i id deleting
    by_cases same : i = j
    · subst same
      rcases kind with other | ⟨id', _, rfl⟩
      · rw [deleting] at other
        cases other
      · simp [setManager, goTo] at deleting
    · rw [elsewhere i same] at deleting
      exact grows id (deleted.named deleting)
  · intro i id done
    by_cases same : i = j
    · subst same
      rcases kind with other | ⟨id', deleting, rfl⟩
      · rw [done] at other
        cases other
      simp only [setManager, update_self, goTo,
        SessionCall.destroyed.injEq, Bool.not_eq_true'] at done
      obtain ⟨rfl, executed⟩ := done
      cases fate with
      | replyLost | notExecuted => cases executed
      | answered =>
        refine ⟨ExpiringStore.only_del _ _ _, ?_, deleted.named deleting⟩
        simp only [setManager, update_self]
        exact ⟨update_self .., not_false⟩
    · have before := done
      rw [elsewhere i same] at before
      exact (deleted.gone before).command step

theorem step (deleted : Deleted s) {action : SessionAction ι} (taken : s.step action = some t) :
    Deleted t := by
  cases action with
  | create j userId email => exact deleted.start (.creating userId email) nofun nofun taken
  | get j other => exact (deleted.name other).start (.reading other) nofun nofun taken
  | destroy j other =>
    refine (deleted.name other).start (.destroying other) ?_ nofun taken
    intro id same
    cases same
    exact List.mem_cons_self
  | command => exact deleted.command taken
  | tick now =>
    simp only [SessionState.step] at taken
    split at taken
    · cases taken
      refine ⟨deleted.named, fun done => ?_⟩
      have ticked : s.step (.tick now) = some { s with now } := by simp [step, *]
      exact (deleted.gone done).step ticked
    · cases taken

end Deleted

variable {redis : ExpiringStore Bytes SessionHash Int} {now : Int}

theorem deleted_of_reachable (reachable : (sessionSystem ι redis now).Reachable s) : Deleted s := by
  refine TransitionSystem.Reachable.induct (P := Deleted) reachable ⟨nofun, nofun⟩ ?_
  intro t u action _ step before
  exact before.step step

/-- **A logout is final**, whatever the commands of all managers do. -/
theorem logout_final (reachable : (sessionSystem ι redis now).Reachable s)
    (loggedOut : (s.managers i).call = .destroyed id true)
    (later : (sessionSystem ι redis now).Reaches s t) (session : Session) :
    (t.managers i).call ≠ .got id (some session) := by
  have gone : Gone i id t := by
    refine TransitionSystem.ReachesUnder.induct (P := Gone i id) later
      ((deleted_of_reachable reachable).gone loggedOut) ?_
    intro u v action _ _ step before
    exact before.step step
  intro found
  refine gone.manager.call ?_
  rw [found]
  rfl

/-- Two managers; the second reads the session before the first deletes it, and renews it
afterwards. -/
def renewedLate : List (SessionAction Bool) × List (SessionAction Bool) :=
  ([.create true 1 [97], .command true .answered 5 (some [48]), .command true .answered 5 none,
    .get false [48], .command false .answered 6 none,
    .destroy true [48], .command true .answered 6 none],
   [.command false .answered 7 none, .get true [48], .command true .answered 8 none])

/-- What the second manager writes does not bring the session back. -/
theorem logout_final_after_renewal :
    ∃ s t : SessionState Bool,
      (sessionSystem Bool (fun _ => none) 0).Reachable s ∧
      (s.managers true).call = .destroyed [48] true ∧
      (sessionSystem Bool (fun _ => none) 0).Reaches s t ∧
      (t.redis (buildSessionKey [48])).isSome = true ∧
      ∀ session, (t.managers true).call ≠ .got [48] (some session) := by
  obtain ⟨s, t, reached, loggedOut, later, left⟩ :=
    (sessionSystem Bool (fun _ => none) 0).exists_of_runsUnder
      (fun _ _ => true) renewedLate.1 renewedLate.2
      (fun s => (s.managers true).call = .destroyed [48] true)
      (fun t => (t.redis (buildSessionKey [48])).isSome) (by decide +kernel)
  have loggedOut : (s.managers true).call = .destroyed [48] true := of_decide_eq_true loggedOut
  exact ⟨s, t, reached.reaches, loggedOut, later.reaches, left,
    logout_final reached.reaches loggedOut later.reaches⟩

end OnlineJudge.Accounts
