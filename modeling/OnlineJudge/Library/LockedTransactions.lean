import Mathlib.Data.List.Basic
import OnlineJudge.Library.TransitionSystem

/-!
# Transactions that lock what they read

Any number of sessions run transactions against one database, statement by statement, under
REPEATABLE READ of MySQL.  A locking statement sees the newest committed state and waits for
conflicting locks; a plain read sees a snapshot; every statement may fail.

A `Contract` says what a lock protects while another transaction commits.  `Outlined` is about one
transaction at a time, and `Outline.sound` concludes for every interleaving.
-/

namespace LockedTransactions

open List

variable {D Λ ρ : Type}

/-! ## Programs -/

inductive Transaction (D Λ ρ : Type) : Type 1
  | lock {α : Type} (locks : D → List Λ) (value : D → α) (next : α → Transaction D Λ ρ)
  | read {α : Type} (value : D → α) (next : α → Transaction D Λ ρ)
  | choose (next : Nat → Transaction D Λ ρ)
  | write (effect : D → D) (next : Transaction D Λ ρ)
  | mark (next : Transaction D Λ ρ)
  | raise
  | commit (result : ρ)
  | rollback (result : ρ)

/-- The calls that clients make.  `admits` says which calls are made in which state of
the database, and `conflict` which locks two transactions cannot hold together. -/
structure Workload (D Λ ρ : Type) where
  Call : Type
  body : Call → Transaction D Λ ρ
  admits : D → Call → Bool
  conflict : Λ → Λ → Bool

structure Progress (D : Type) where
  snapshot : Option D := none
  effect : D → D := id

inductive Outcome (D Λ ρ : Type) : Type 1
  | goesOn (taken : List Λ) (progress : Progress D) (rest : Transaction D Λ ρ)
  | commits (result : ρ)
  | ends (result : Option ρ)

/-- The next statement of a transaction; `free` are the locks that conflict with none
held by another transaction.  `none` where the statement waits. -/
def perform (db : D) (free : Λ → Bool) (progress : Progress D) (number : Nat) :
    Transaction D Λ ρ → Option (Outcome D Λ ρ)
  | .lock locks value next =>
    let view := progress.effect db
    if (locks view).all free then some (.goesOn (locks view) progress (next (value view)))
    else none
  | .read value next =>
    let snapshot := progress.snapshot.getD db
    some (.goesOn [] { progress with snapshot := some snapshot }
      (next (value (progress.effect snapshot))))
  | .choose next => some (.goesOn [] progress (next number))
  | .write effect next =>
    some (.goesOn [] { progress with effect := effect ∘ progress.effect } next)
  | .mark next => some (.goesOn [] progress next)
  | .raise => some (.ends none)
  | .commit result => some (.commits result)
  | .rollback result => some (.ends (some result))

/-! ## Sessions -/

variable {workload : Workload D Λ ρ}

inductive Session (workload : Workload D Λ ρ) : Type 1
  | idle
  | running (call : workload.Call) (progress : Progress D) (rest : Transaction D Λ ρ)
  | returned (call : workload.Call) (result : Option ρ)

structure State (workload : Workload D Λ ρ) : Type 1 where
  db : D
  locks : List (Nat × Λ) := []
  sessions : Nat → Session workload := fun _ => .idle

inductive Action (workload : Workload D Λ ρ)
  | start (session : Nat) (call : workload.Call)
  | proceed (session : Nat) (number : Nat)
  | fail (session : Nat)
  | loseAnswer (session : Nat)

variable (locks : List (Nat × Λ))

def heldBy (i : Nat) : List Λ :=
  locks.filterMap fun entry => if entry.1 = i then some entry.2 else none

variable {i : Nat}

theorem mem_heldBy {locks : List (Nat × Λ)} {lock : Λ} :
    lock ∈ heldBy locks i ↔ (i, lock) ∈ locks := by
  simp only [heldBy, mem_filterMap, Option.ite_none_right_eq_some, Option.some.injEq, Prod.exists]
  constructor
  · rintro ⟨_, _, member, rfl, rfl⟩
    exact member
  · intro member
    exact ⟨i, lock, member, rfl, rfl⟩

variable {j : Nat}

def releasedBy (i : Nat) : List (Nat × Λ) :=
  locks.filter fun entry => entry.1 ≠ i

theorem heldBy_releasedBy (other : j ≠ i) : heldBy (releasedBy locks i) j = heldBy locks j := by
  induction locks with
  | nil => rfl
  | cons entry rest ih =>
    by_cases mine : entry.1 = i
    · have notTheirs : entry.1 ≠ j := by omega
      simpa [releasedBy, heldBy, mine, notTheirs, other.symm] using ih
    · by_cases theirs : entry.1 = j <;>
        simpa [releasedBy, heldBy, mine, theirs, other] using ih

namespace State

variable (s : State workload)

def setSession (i : Nat) (session : Session workload) : State workload :=
  { s with sessions := Function.update s.sessions i session }

/-- The transaction of session `i` has ended. -/
def finish (i : Nat) (call : workload.Call) (result : Option ρ) : State workload :=
  { s.setSession i (.returned call result) with locks := releasedBy s.locks i }

/-- Session `i` need not wait for the lock. -/
def free (i : Nat) (lock : Λ) : Bool :=
  s.locks.all fun entry => entry.1 = i || !workload.conflict entry.2 lock

def apply (i : Nat) (call : workload.Call) (progress : Progress D) :
    Outcome D Λ ρ → State workload
  | .goesOn taken progress rest =>
    { s.setSession i (.running call progress rest) with
      locks := taken.map (Prod.mk i) ++ s.locks }
  | .commits result => { s.finish i call (some result) with db := progress.effect s.db }
  | .ends result => s.finish i call result

end State

def sessionStep (s : State workload) : Action workload → Option (State workload)
  | .start i call =>
    match s.sessions i with
    | .idle =>
      if workload.admits s.db call then
        some (s.setSession i (.running call {} (workload.body call)))
      else none
    | _ => none
  | .proceed i number =>
    match s.sessions i with
    | .running call progress rest =>
      (perform s.db (s.free i) progress number rest).map (s.apply i call progress)
    | _ => none
  | .fail i =>
    match s.sessions i with
    | .running call _ _ => some (s.finish i call none)
    | _ => none
  | .loseAnswer i =>
    match s.sessions i with
    | .running call progress (.commit _) =>
      some { s.finish i call none with db := progress.effect s.db }
    | _ => none

def system (workload : Workload D Λ ρ) (db : D) :
    TransitionSystem (State workload) (Action workload) where
  initial := { db := db }
  step := sessionStep

def committing (s : State workload) : Action workload → Option workload.Call
  | .proceed i _ | .loseAnswer i =>
    match s.sessions i with
    | .running call _ (.commit _) => some call
    | _ => none
  | _ => none

/-! ## The proof rule -/

structure Contract (workload : Workload D Λ ρ) where
  Inv : D → Prop
  Grows : D → D → Prop
  Agree : Λ → D → D → Prop
  Meets : workload.Call → D → Prop

namespace Contract

variable (contract : Contract workload)

structure Rely (held : List Λ) (db db' : D) : Prop where
  before : contract.Inv db
  after : contract.Inv db'
  grows : contract.Grows db db'
  agree : ∀ lock ∈ held, contract.Agree lock db db'

def Stable (held : List Λ) (fact : D → Prop) : Prop :=
  ∀ ⦃db db' : D⦄, contract.Rely held db db' → fact db → fact db'

variable {held : List Λ} {fact : D → Prop}

variable {contract} in
theorem Stable.and {first second : D → Prop} (stable : contract.Stable held first)
    (stable' : contract.Stable held second) : contract.Stable held fun db => first db ∧ second db :=
  fun _ _ rely holds => ⟨stable rely holds.1, stable' rely holds.2⟩

variable {contract} in
theorem Stable.mono {held' : List Λ} (stable : contract.Stable held fact) (more : held ⊆ held') :
    contract.Stable held' fact :=
  fun _ _ rely => stable
    ⟨rely.before, rely.after, rely.grows, fun lock mem => rely.agree lock (more mem)⟩

structure Respects (held : List Λ) (db db' : D) : Prop where
  inv : contract.Inv db'
  grows : contract.Grows db db'
  agree : ∀ lock, (∀ mine ∈ held, workload.conflict mine lock = false) → contract.Agree lock db db'

/-- The proof outline of a transaction.  `fact` holds of the committed state, the locks
`held` protect it, and `effect` are the writes so far.  The value of a plain read is
known only at the first one, whose snapshot is the committed state. -/
def Outlined (call : workload.Call) (fresh : Bool) (fact : D → Prop) (held : List Λ)
    (effect : D → D) : Transaction D Λ ρ → Prop
  | .lock locks value next => ∀ db, contract.Inv db → fact db →
      ∃ fact' : D → Prop, fact' db ∧ contract.Stable (locks (effect db) ++ held) fact' ∧
        Outlined call fresh fact' (locks (effect db) ++ held) effect (next (value (effect db)))
  | .read value next =>
    (fresh = true ∧ ∀ db, contract.Inv db → fact db →
      ∃ fact' : D → Prop, fact' db ∧ contract.Stable held fact' ∧
        Outlined call false fact' held effect (next (value (effect db)))) ∨
    ∀ answer, Outlined call false fact held effect (next answer)
  | .choose next => ∀ number, Outlined call fresh fact held effect (next number)
  | .write effect' next => Outlined call fresh fact held (effect' ∘ effect) next
  | .mark _ => ∀ db, contract.Inv db → ¬ fact db
  | .raise => True
  | .commit _ => ∀ db, contract.Inv db → fact db → contract.Meets call db →
      contract.Respects held db (effect db)
  | .rollback _ => True

variable {contract} in
theorem Outlined.write {call : workload.Call} {fresh : Bool} {effect effect' : D → D}
    {next : Transaction D Λ ρ}
    (outlined : contract.Outlined call fresh fact held (effect' ∘ effect) next) :
    contract.Outlined call fresh fact held effect (.write effect' next) := outlined

variable {contract} in
theorem outlined_of_not {call : workload.Call} (never : ∀ db, ¬ fact db) (rest : Transaction D Λ ρ)
    (fresh : Bool) (held : List Λ) (effect : D → D) :
    contract.Outlined call fresh fact held effect rest := by
  induction rest generalizing fresh held effect with
  | lock | commit => exact fun db _ holds => absurd holds (never db)
  | read value next ih => exact .inr fun answer => ih answer false held effect
  | choose next ih => exact fun number => ih number fresh held effect
  | write effect' next ih => exact ih fresh held (effect' ∘ effect)
  | mark => exact fun db _ => never db
  | raise | rollback => trivial

def Allowed (s : State workload) (action : Action workload) : Prop :=
  ∀ call ∈ committing s action, contract.Meets call s.db

end Contract

structure Outline (contract : Contract workload) : Prop where
  symm : ∀ first second, workload.conflict first second = workload.conflict second first
  admitted : ∀ call, contract.Stable [] fun db => workload.admits db call = true
  body : ∀ call, contract.Outlined call true (fun db => workload.admits db call = true) [] id
    (workload.body call)

namespace Outline

variable {contract : Contract workload}

def SessionSound (contract : Contract workload) (db : D) (held : List Λ) :
    Session workload → Prop
  | .running call progress rest => ∃ fact : D → Prop, fact db ∧ contract.Stable held fact ∧
      contract.Outlined call progress.snapshot.isNone fact held progress.effect rest
  | .idle => held = []
  | .returned _ _ => True

structure Sound (contract : Contract workload) (s : State workload) : Prop where
  inv : contract.Inv s.db
  sessions : ∀ i, SessionSound contract s.db (heldBy s.locks i) (s.sessions i)
  compatible : ∀ entry ∈ s.locks, ∀ entry' ∈ s.locks, entry.1 ≠ entry'.1 →
    workload.conflict entry.2 entry'.2 = false

variable {db : D} {free : Λ → Bool} {call : workload.Call} {number i : Nat}
    {rest : Transaction D Λ ρ} {progress : Progress D} {taken : List Λ} {session : Session workload}
    {s : State workload} {progress' : Progress D} {rest' : Transaction D Λ ρ} {result : ρ}

theorem SessionSound.goesOn {held : List Λ} (inv : contract.Inv db)
    (sound : SessionSound contract db held (.running call progress rest))
    (step : perform db free progress number rest = some (.goesOn taken progress' rest')) :
    SessionSound contract db (taken ++ held) (.running call progress' rest') := by
  obtain ⟨fact, holds, stable, outlined⟩ := sound
  cases rest with
  | lock =>
    simp only [perform] at step
    split at step <;> cases step
    exact outlined db inv holds
  | read =>
    cases step
    rcases outlined with ⟨fresh, first⟩ | any
    · have newest : progress.snapshot = none := Option.isNone_iff_eq_none.mp fresh
      rw [newest]
      exact first db inv holds
    · exact ⟨fact, holds, stable, any _⟩
  | choose =>
    cases step
    exact ⟨fact, holds, stable, outlined number⟩
  | write =>
    cases step
    exact ⟨fact, holds, stable, outlined⟩
  | mark => exact absurd holds (outlined db inv)
  | _ => cases step

theorem SessionSound.rely {db' : D} {held : List Λ} (sound : SessionSound contract db held session)
    (rely : contract.Rely held db db') :
    SessionSound contract db' held session := by
  cases session with
  | running =>
    obtain ⟨fact, holds, stable, outlined⟩ := sound
    exact ⟨fact, stable rely holds, stable, outlined⟩
  | idle => exact sound
  | returned => trivial

theorem Sound.setSession (sound : Sound contract s)
    (new : SessionSound contract s.db (heldBy s.locks i) session) :
    Sound contract (s.setSession i session) where
  inv := sound.inv
  compatible := sound.compatible
  sessions j := by
    by_cases mine : j = i
    · subst mine
      simpa [State.setSession] using new
    · simpa [State.setSession, mine] using sound.sessions j

theorem Sound.finish (sound : Sound contract s) (i : Nat)
    (call : workload.Call) (result : Option ρ) : Sound contract (s.finish i call result) where
  inv := sound.inv
  compatible entry member entry' member' :=
    sound.compatible entry (mem_of_mem_filter member) entry' (mem_of_mem_filter member')
  sessions j := by
    by_cases mine : j = i
    · subst mine
      simp [State.finish, State.setSession, SessionSound]
    · simpa [State.finish, State.setSession, mine, heldBy_releasedBy s.locks mine]
        using sound.sessions j

theorem Sound.commit (sound : Sound contract s)
    (respects : contract.Respects (heldBy s.locks i) s.db db)
    (call : workload.Call) (result : Option ρ) :
    Sound contract { s.finish i call result with db := db } where
  inv := respects.inv
  compatible := (sound.finish i call result).compatible
  sessions j := by
    by_cases mine : j = i
    · subst mine
      simp [State.finish, State.setSession, SessionSound]
    have kept := (sound.finish i call result).sessions j
    refine kept.rely ⟨sound.inv, respects.inv, respects.grows, ?_⟩
    intro lock held
    refine respects.agree lock fun other theirs => ?_
    rw [State.finish, heldBy_releasedBy s.locks mine, mem_heldBy] at held
    exact sound.compatible _ (mem_heldBy.mp theirs) _ held fun same => mine same.symm

theorem Sound.take (outline : Outline contract) (sound : Sound contract s)
    (granted : ∀ lock ∈ taken, s.free i lock = true)
    (new : SessionSound contract s.db (taken ++ heldBy s.locks i) session) :
    Sound contract { s.setSession i session with locks := taken.map (Prod.mk i) ++ s.locks } where
  inv := sound.inv
  sessions j := by
    by_cases mine : j = i
    · subst mine
      simpa [State.setSession, heldBy, filterMap_map] using new
    · simpa [State.setSession, mine, heldBy, filterMap_map, Ne.symm mine]
        using sound.sessions j
  compatible := by
    -- a lock that was granted conflicts with no lock of another session
    have new : ∀ lock ∈ taken, ∀ entry ∈ s.locks, entry.1 ≠ i →
        workload.conflict entry.2 lock = false := by
      intro lock member entry member' other
      have free := all_eq_true.mp (granted lock member) entry member'
      simpa [other] using free
    intro entry member entry' member' other
    rcases mem_append.mp member with fresh | old <;> rcases mem_append.mp member' with fresh' | old'
    · obtain ⟨lock, _, rfl⟩ := mem_map.mp fresh
      obtain ⟨lock', _, rfl⟩ := mem_map.mp fresh'
      exact absurd rfl other
    · obtain ⟨lock, among, rfl⟩ := mem_map.mp fresh
      rw [outline.symm]
      exact new lock among entry' old' other.symm
    · obtain ⟨lock', among', rfl⟩ := mem_map.mp fresh'
      exact new lock' among' entry old other
    · exact sound.compatible entry old entry' old' other

theorem free_of_perform
    (step : perform db free progress number rest = some (.goesOn taken progress' rest')) :
    ∀ lock ∈ taken, free lock = true := by
  intro lock member
  cases rest with
  | lock locks value next =>
    simp only [perform] at step
    split at step <;> cases step
    case isTrue.refl all => exact all_eq_true.mp all lock member
  | read | choose | write | mark =>
    cases step
    cases member
  | _ => cases step

theorem perform_commits (step : perform db free progress number rest = some (.commits result)) :
    rest = .commit result := by
  cases rest with
  | commit => cases step; rfl
  | lock =>
    simp only [perform] at step
    split at step <;> cases step
  | _ => cases step

theorem Sound.respects (sound : Sound contract s)
    (running : s.sessions i = .running call progress (.commit result))
    (meets : contract.Meets call s.db) :
    contract.Respects (heldBy s.locks i) s.db (progress.effect s.db) := by
  have session := sound.sessions i
  rw [running] at session
  obtain ⟨fact, holds, _, outlined⟩ := session
  exact outlined s.db sound.inv holds meets

theorem Sound.step {t : State workload} {action : Action workload} (outline : Outline contract)
    (sound : Sound contract s) (allowed : contract.Allowed s action)
    (step : sessionStep s action = some t) : Sound contract t := by
  cases action with simp only [sessionStep] at step
  | start i call =>
    split at step <;> [skip; cases step]
    case h_1 idle =>
    split at step <;> cases step
    case isTrue.refl admits =>
    have unlocked : heldBy s.locks i = [] := by
      have session := sound.sessions i
      rwa [idle] at session
    refine sound.setSession ⟨fun db => workload.admits db call = true, admits, ?_, ?_⟩
    · rw [unlocked]
      exact outline.admitted call
    · rw [unlocked]
      exact outline.body call
  | proceed i number =>
    split at step <;> [skip; cases step]
    case h_1 call progress rest running =>
    obtain ⟨outcome, performed, rfl⟩ := Option.map_eq_some_iff.mp step
    cases outcome with
    | goesOn =>
      have session := sound.sessions i
      rw [running] at session
      exact sound.take outline (free_of_perform performed) (session.goesOn sound.inv performed)
    | commits result =>
      obtain rfl := perform_commits performed
      have meets : contract.Meets call s.db :=
        allowed call (by simp [committing, running])
      exact sound.commit (sound.respects running meets) call (some result)
    | ends result => exact sound.finish i call result
  | fail i =>
    split at step <;> cases step
    exact sound.finish i _ none
  | loseAnswer i =>
    split at step <;> cases step
    case h_1.refl call progress result running =>
    have meets : contract.Meets call s.db :=
      allowed call (by simp [committing, running])
    exact sound.commit (sound.respects running meets) call none

/-- **The proof rule.**  In every interleaving whose commits meet the contract's condition
every committed state satisfies the invariant. -/
theorem sound (outline : Outline contract) (initial : contract.Inv db)
    (reachable : (system workload db).ReachableUnder contract.Allowed s) : Sound contract s := by
  refine reachable.induct ⟨initial, fun _ => rfl, nofun⟩ ?_
  intro s t action _ allowed step sound
  exact sound.step outline allowed step

theorem Sound.not_marked (sound : Sound contract s)
    : s.sessions i ≠ .running call progress (.mark rest) := by
  intro running
  have session := sound.sessions i
  rw [running] at session
  obtain ⟨fact, holds, _, outlined⟩ := session
  exact outlined s.db sound.inv holds

end Outline

end LockedTransactions
