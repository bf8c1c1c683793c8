import Mathlib.Data.List.Basic
import OnlineJudge.Library.TransitionSystem

/-!
# Transactions under repeatable read

Sessions run transactions under REPEATABLE READ of MySQL: a plain read sees a snapshot and the
transaction's own writes; a statement that writes, and a read `FOR UPDATE SKIP LOCKED`, sees the
committed rows and locks them; every statement may fail.

A transaction that ends has done what it would have done alone on the committed rows, except that
its plain reads were answered from an older state (`Replay`).  So `Outline` asks for weakest
preconditions (`wlp`) of one transaction at a time, and concludes for every interleaving.
-/

namespace RepeatableRead

open RepeatableRead Function List Option

variable {K : Type} {V : K → Type} {ρ : Type}

/-! ## Programs -/

abbrev Database (V : K → Type) := (k : K) → Option (V k)

def overlay (writes db : Database V) : Database V := fun k => (writes k).or (db k)

@[simp] theorem overlay_empty (db : Database V) : overlay (fun _ => none) db = db := rfl

inductive Transaction (V : K → Type) (ρ : Type)
  | find (k : K) (next : Option (V k) → Transaction V ρ)
  /-- `SELECT ... LIMIT n FOR UPDATE SKIP LOCKED`. -/
  | lockRows (matching : (k : K) → V k → Bool) (limit : Nat)
      (next : List ((k : K) × V k) → Transaction V ρ)
  | update (k : K) (row : V k) (next : Transaction V ρ)
  | persist (k : K) (row : V k) (next : Transaction V ρ)
  | persistAuto (key : Nat → K) (row : (n : Nat) → V (key n)) (next : Nat → Transaction V ρ)
  | commit (result : ρ)
  | rollback (result : ρ)

inductive Procedure (V : K → Type) (ρ : Type)
  | done (result : ρ)
  | transaction (body : Transaction V ρ) (onError : Procedure V ρ)

/-- `P` holds of every transaction of a procedure. -/
def Procedure.Every (P : Transaction V ρ → Prop) : Procedure V ρ → Prop
  | .done _ => True
  | .transaction body onError => P body ∧ onError.Every P

def Procedure.last : Procedure V ρ → ρ
  | .done result => result
  | .transaction _ onError => onError.last

theorem Procedure.Every.imp {P Q : Transaction V ρ → Prop} (implies : ∀ body, P body → Q body)
    {procedure : Procedure V ρ} (every : procedure.Every P) : procedure.Every Q := by
  induction procedure with
  | done => trivial
  | transaction body onError ih => exact ⟨implies body every.1, ih every.2⟩

structure Progress (V : K → Type) where
  snapshot : Option (Database V) := none
  writes : Database V := fun _ => none
  locked : List K := []

def rowsAt (db : Database V) (keys : List K) : List ((k : K) × V k) :=
  keys.filterMap fun k => (db k).map (Sigma.mk k)

structure Choice (K : Type) where
  rows : List K := []
  number : Nat := 0

inductive Outcome (V : K → Type) (ρ : Type)
  | goesOn (progress : Progress V) (rest : Transaction V ρ)
  /-- An error; `fault` unless it is a duplicate key. -/
  | raises (fault : Bool)
  | commits (result : ρ)
  | returns (result : ρ)

section Semantics

variable [DecidableEq K]

def Progress.write (progress : Progress V) (k : K) (row : V k) : Progress V :=
  { progress with
    writes := update progress.writes k (some row)
    locked := k :: progress.locked }

@[simp] theorem Progress.write_self (progress : Progress V) (k : K) (row : V k) :
    (progress.write k row).writes k = some row := update_self ..

theorem Progress.write_of_ne {k k' : K} (progress : Progress V) (row : V k') (ne : k ≠ k') :
    (progress.write k' row).writes k = progress.writes k := update_of_ne ne ..

theorem overlay_write (progress : Progress V) (k : K) (row : V k) (db : Database V) :
    overlay (progress.write k row).writes db =
      update (overlay progress.writes db) k (some row) := by
  funext k'
  by_cases same : k' = k
  · subst same
    simp [overlay]
  · simp [overlay, Progress.write_of_ne _ _ same, update_of_ne same]

/-- The next statement of a transaction; `free` are the keys that no other transaction
has locked.  `none` where the statement waits, or the choice is not possible. -/
def perform (db : Database V) (free : K → Bool) (progress : Progress V) (choice : Choice K) :
    Transaction V ρ → Option (Outcome V ρ)
  | .find k next =>
    let snapshot := progress.snapshot.getD db
    some (.goesOn { progress with snapshot := some snapshot }
      (next (overlay progress.writes snapshot k)))
  | .lockRows matching limit next =>
    if choice.rows.Nodup ∧ choice.rows.length ≤ limit ∧
        ∀ k ∈ choice.rows, free k = true ∧
          (overlay progress.writes db k).any (matching k) = true then
      some (.goesOn { progress with locked := choice.rows ++ progress.locked }
        (next (rowsAt (overlay progress.writes db) choice.rows)))
    else none
  | .update k row next =>
    if free k then
      if (overlay progress.writes db k).isSome then some (.goesOn (progress.write k row) next)
      else some (.raises true)
    else none
  | .persist k row next =>
    if free k then
      if (overlay progress.writes db k).isSome then some (.raises false)
      else some (.goesOn (progress.write k row) next)
    else none
  | .persistAuto key row next =>
    if free (key choice.number) ∧ overlay progress.writes db (key choice.number) = none then
      some (.goesOn (progress.write (key choice.number) (row choice.number)) (next choice.number))
    else none
  | .commit result => some (.commits result)
  | .rollback result => some (.returns result)

variable {result : ρ} {rest : Transaction V ρ} {choice : Choice K} {progress : Progress V}
    {free : K → Bool}

theorem perform_commits {db : Database V}
    (step : perform db free progress choice rest = some (.commits result)) :
    rest = .commit result := by
  cases rest with
  | commit => cases step; rfl
  | find | rollback => cases step
  | _ => simp only [perform] at step; split_ifs at step <;> cases step

theorem perform_returns {db : Database V}
    (step : perform db free progress choice rest = some (.returns result)) :
    rest = .rollback result := by
  cases rest with
  | rollback => cases step; rfl
  | find | commit => cases step
  | _ => simp only [perform] at step; split_ifs at step <;> cases step

end Semantics

/-! ## Sessions -/

/-- The calls that clients make.  `admits` says which calls are made in which state of
the database. -/
structure Workload (V : K → Type) (ρ : Type) where
  Call : Type
  procedure : Call → Procedure V ρ
  admits : Database V → Call → Bool

/-- A session.  `faulted` records that a statement of the call has failed other than by
a duplicate key. -/
inductive Session (workload : Workload V ρ)
  | idle
  | running (call : workload.Call) (progress : Progress V) (rest : Transaction V ρ)
      (onError : Procedure V ρ) (faulted : Bool)
  | returned (call : workload.Call) (result : ρ) (faulted : Bool)

open Session

structure State (workload : Workload V ρ) where
  db : Database V
  locks : K → Option Nat := fun _ => none
  sessions : Nat → Session workload := fun _ => .idle

inductive Action (workload : Workload V ρ)
  | start (session : Nat) (call : workload.Call)
  | proceed (session : Nat) (choice : Choice K)
  | fail (session : Nat)

variable {workload : Workload V ρ}

def Session.begin (call : workload.Call) (faulted : Bool) : Procedure V ρ → Session workload
  | .done result => .returned call result faulted
  | .transaction body onError => .running call {} body onError faulted

namespace State

def setSession (s : State workload) (i : Nat) (session : Session workload) : State workload :=
  { s with sessions := update s.sessions i session }

def release (s : State workload) (i : Nat) : State workload :=
  { s with locks := fun k => if s.locks k = some i then none else s.locks k }

def free (s : State workload) (i : Nat) (k : K) : Bool := s.locks k = none ∨ s.locks k = some i

variable [DecidableEq K]

def lock (s : State workload) (i : Nat) (keys : List K) : State workload :=
  { s with locks := fun k => if k ∈ keys then some i else s.locks k }

def apply (s : State workload) (i : Nat) (call : workload.Call) (progress : Progress V)
    (onError : Procedure V ρ) (faulted : Bool) : Outcome V ρ → State workload
  | .goesOn progress rest =>
    (s.lock i progress.locked).setSession i (.running call progress rest onError faulted)
  | .raises fault => (s.release i).setSession i (begin call (faulted || fault) onError)
  | .commits result =>
    { (s.release i).setSession i (.returned call result faulted) with
      db := overlay progress.writes s.db }
  | .returns result => (s.release i).setSession i (.returned call result faulted)

end State

def sessionStep [DecidableEq K] (s : State workload) : Action workload → Option (State workload)
  | .start i call =>
    match s.sessions i with
    | .idle =>
      if workload.admits s.db call then
        some (s.setSession i (begin call false (workload.procedure call)))
      else none
    | _ => none
  | .proceed i choice =>
    match s.sessions i with
    | .running call progress rest onError faulted =>
      (perform s.db (s.free i) progress choice rest).map
        (s.apply i call progress onError faulted)
    | _ => none
  | .fail i =>
    match s.sessions i with
    | .running call _ _ onError _ => some ((s.release i).setSession i (begin call true onError))
    | _ => none

def Action.session : Action workload → Nat
  | .start i _ | .proceed i _ | .fail i => i

section Step

variable [DecidableEq K] {s t : State workload} {action : Action workload}

/-- **What a step can do.** -/
inductive SessionStep (s : State workload) : Action workload → State workload → Prop
  | start {i : Nat} {call : workload.Call} (idle : s.sessions i = .idle)
      (admitted : workload.admits s.db call = true) :
      SessionStep s (.start i call) (s.setSession i (begin call false (workload.procedure call)))
  | fail {i : Nat} {call : workload.Call} {progress : Progress V} {rest : Transaction V ρ}
      {onError : Procedure V ρ} {faulted : Bool}
      (running : s.sessions i = .running call progress rest onError faulted) :
      SessionStep s (.fail i) ((s.release i).setSession i (begin call true onError))
  | proceed {i : Nat} {choice : Choice K} {call : workload.Call} {progress : Progress V}
      {rest : Transaction V ρ} {onError : Procedure V ρ} {faulted : Bool} {outcome : Outcome V ρ}
      (running : s.sessions i = .running call progress rest onError faulted)
      (performed : perform s.db (s.free i) progress choice rest = some outcome) :
      SessionStep s (.proceed i choice) (s.apply i call progress onError faulted outcome)

theorem sessionStep_cases (step : sessionStep s action = some t) : SessionStep s action t := by
  cases action with rw [sessionStep] at step
  | start i call =>
    split at step <;> [skip; cases step]
    split at step <;> cases step
    exact .start ‹_› ‹_›
  | fail i =>
    split at step <;> cases step
    exact .fail ‹_›
  | proceed i choice =>
    split at step <;> [skip; cases step]
    obtain ⟨outcome, performed, rfl⟩ := map_eq_some_iff.mp step
    exact .proceed ‹_› performed

variable {j : Nat}

theorem sessionStep_others (step : sessionStep s action = some t) (other : j ≠ action.session) :
    t.sessions j = s.sessions j := by
  cases sessionStep_cases step with
  | start | fail => exact update_of_ne other ..
  | @proceed _ _ _ _ _ _ _ outcome => cases outcome <;> exact update_of_ne other ..

theorem sessionStep_returned (step : sessionStep s action = some t) {call : workload.Call}
    {result : ρ} {faulted : Bool} (returned : s.sessions j = .returned call result faulted) :
    t.sessions j = .returned call result faulted := by
  have other : j ≠ action.session := by
    rintro rfl
    cases sessionStep_cases step with
    | start idle => cases returned.symm.trans idle
    | fail running | proceed running => cases returned.symm.trans running
  rw [sessionStep_others step other, returned]

def Session.call : Session workload → Option workload.Call
  | .idle => none
  | .running call .. | .returned call .. => some call

omit [DecidableEq K] in
@[simp] theorem Session.call_begin (call : workload.Call) (faulted : Bool)
    (procedure : Procedure V ρ) : (begin call faulted procedure).call = some call := by
  cases procedure <;> rfl

theorem sessionStep_start {i : Nat} {call : workload.Call}
    (step : sessionStep s (.start i call) = some t) : (t.sessions i).call = some call := by
  cases sessionStep_cases step
  simp [State.setSession]

theorem sessionStep_call (step : sessionStep s action = some t) {call : workload.Call}
    (before : (s.sessions j).call = some call) : (t.sessions j).call = some call := by
  by_cases mine : j = action.session
  case neg => rwa [sessionStep_others step mine]
  subst mine
  cases sessionStep_cases step with
  | start idle =>
    rw [Action.session, idle] at before
    cases before
  | fail running =>
    rw [Action.session, running] at before
    simpa only [Action.session, State.setSession, update_self, call_begin]
  | @proceed _ _ _ _ _ _ _ outcome running =>
    rw [Action.session, running] at before
    cases outcome <;>
      simpa only [Action.session, State.apply, State.setSession, update_self, call_begin]

end Step

def system [DecidableEq K] (workload : Workload V ρ) (db : Database V) :
    TransitionSystem (State workload) (Action workload) where
  initial := { db := db }
  step := sessionStep

theorem sessionStep_db [DecidableEq K] {s t : State workload} {action : Action workload}
    (step : sessionStep s action = some t) :
    t.db = s.db ∨ ∃ i choice call progress result onError faulted,
      action = .proceed i choice ∧
        s.sessions i = .running call progress (.commit result) onError faulted ∧
        t.sessions i = .returned call result faulted ∧
        t.db = overlay progress.writes s.db := by
  cases sessionStep_cases step with
  | start | fail => exact .inl rfl
  | @proceed i choice call progress rest onError faulted outcome running performed =>
    cases outcome with
    | commits result =>
      obtain rfl := perform_commits performed
      exact .inr ⟨i, choice, call, progress, result, onError, faulted, rfl, running,
        update_self .., rfl⟩
    | _ => exact .inl rfl

/-! ## One session on its own -/

def Session.Local (P : workload.Call → Progress V → Transaction V ρ → Prop) :
    Session workload → Prop
  | .running call progress rest onError _ => P call progress rest ∧ onError.Every (P call {})
  | _ => True

variable {P : workload.Call → Progress V → Transaction V ρ → Prop}

theorem Session.Local.begin {call : workload.Call} {faulted : Bool} {procedure : Procedure V ρ}
    (every : procedure.Every (P call {})) : (begin call faulted procedure).Local P := by
  cases procedure with
  | done => trivial
  | transaction => exact every

/-- **The rule for one session.**  What holds where a transaction begins, and is kept by each
of its statements, whatever the committed rows are, holds in every session. -/
theorem local_of_reachable [DecidableEq K]
    (begins : ∀ call, (workload.procedure call).Every (P call {}))
    (proceeds : ∀ {call : workload.Call} {db : Database V} {free : K → Bool}
      {progress progress' : Progress V} {choice : Choice K} {rest rest' : Transaction V ρ},
      perform db free progress choice rest = some (.goesOn progress' rest') →
        P call progress rest → P call progress' rest')
    {initial : Database V} {allowed : State workload → Action workload → Prop}
    {s : State workload} (reachable : (system workload initial).ReachableUnder allowed s)
    (i : Nat) : (s.sessions i).Local P := by
  refine reachable.induct (P := fun s => ∀ i, (s.sessions i).Local P) (fun _ => trivial) ?_ i
  intro s t action _ _ step all i
  change sessionStep s action = some t at step
  by_cases mine : i = action.session
  case neg =>
    rw [sessionStep_others step mine]
    exact all i
  subst mine
  have mine := all action.session
  cases sessionStep_cases step with
  | start =>
    simp only [Action.session, State.setSession, update_self]
    exact .begin (begins _)
  | fail running =>
    rw [Action.session, running] at mine
    simp only [Action.session, State.setSession, update_self]
    exact .begin mine.2
  | @proceed _ _ _ _ _ _ _ outcome running performed =>
    rw [Action.session, running] at mine
    cases outcome <;> simp only [Action.session, State.apply, State.setSession, update_self]
    case goesOn => exact ⟨proceeds performed mine.1, mine.2⟩
    case raises => exact .begin mine.2
    all_goals trivial

/-! ## One transaction at a time -/

section Replay

variable {Past Past' : Database V → Prop} {base base' : Database V}

def Sees (Past : Database V → Prop) (base : Database V) (progress : Progress V)
    (snapshot : Database V) : Prop :=
  progress.snapshot = some snapshot ∨
    progress.snapshot = none ∧ Past snapshot ∧ ∀ k ∈ progress.locked, snapshot k = base k

variable [DecidableEq K]

/-- `Replay body Past base progress rest`: on the committed rows `base`, with plain reads
answered from a database in `Past`, `body` comes as far as `progress`, with `rest`
left. -/
inductive Replay (body : Transaction V ρ) (Past : Database V → Prop) (base : Database V) :
    Progress V → Transaction V ρ → Prop
  | begin : Replay body Past base {} body
  | find {progress : Progress V} {k : K} {next : Option (V k) → Transaction V ρ}
      {snapshot : Database V} (before : Replay body Past base progress (.find k next))
      (sees : Sees Past base progress snapshot) :
      Replay body Past base { progress with snapshot := some snapshot }
        (next (overlay progress.writes snapshot k))
  | lockRows {progress : Progress V} {matching : (k : K) → V k → Bool} {limit : Nat}
      {next : List ((k : K) × V k) → Transaction V ρ} {keys : List K}
      (before : Replay body Past base progress (.lockRows matching limit next))
      (nodup : keys.Nodup) (few : keys.length ≤ limit)
      (matched : ∀ k ∈ keys, (overlay progress.writes base k).any (matching k) = true) :
      Replay body Past base { progress with locked := keys ++ progress.locked }
        (next (rowsAt (overlay progress.writes base) keys))
  | update {progress : Progress V} {k : K} {row : V k} {next : Transaction V ρ}
      (before : Replay body Past base progress (.update k row next))
      (present : (overlay progress.writes base k).isSome = true) :
      Replay body Past base (progress.write k row) next
  | persist {progress : Progress V} {k : K} {row : V k} {next : Transaction V ρ}
      (before : Replay body Past base progress (.persist k row next))
      (absent : overlay progress.writes base k = none) :
      Replay body Past base (progress.write k row) next
  | persistAuto {progress : Progress V} {key : Nat → K} {row : (n : Nat) → V (key n)}
      {next : Nat → Transaction V ρ} {n : Nat}
      (before : Replay body Past base progress (.persistAuto key row next))
      (absent : overlay progress.writes base (key n) = none) :
      Replay body Past base (progress.write (key n) (row n)) (next n)

/-- What is asked of the ways in which a transaction ends. -/
structure Ends (V : K → Type) (ρ : Type) where
  commits : Progress V → ρ → Prop
  returns : Progress V → ρ → Prop
  raises : Bool → Prop

/-- The weakest precondition of a transaction: on the committed rows `base`, with plain
reads answered from a database in `Past`, every way to its end meets `ends`. -/
def wlp (Past : Database V → Prop) (base : Database V) (ends : Ends V ρ) :
    Transaction V ρ → Progress V → Prop
  | .find k next, progress => ∀ snapshot, Sees Past base progress snapshot →
      wlp Past base ends (next (overlay progress.writes snapshot k))
        { progress with snapshot := some snapshot }
  | .lockRows matching limit next, progress => ∀ keys : List K, keys.Nodup →
      keys.length ≤ limit →
      (∀ k ∈ keys, (overlay progress.writes base k).any (matching k) = true) →
      wlp Past base ends (next (rowsAt (overlay progress.writes base) keys))
        { progress with locked := keys ++ progress.locked }
  | .update k row next, progress =>
    ((overlay progress.writes base k).isSome = true →
      wlp Past base ends next (progress.write k row)) ∧
    (overlay progress.writes base k = none → ends.raises true)
  | .persist k row next, progress =>
    (overlay progress.writes base k = none → wlp Past base ends next (progress.write k row)) ∧
    ((overlay progress.writes base k).isSome = true → ends.raises false)
  | .persistAuto key row next, progress => ∀ n,
      overlay progress.writes base (key n) = none →
      wlp Past base ends (next n) (progress.write (key n) (row n))
  | .commit result, progress => ends.commits progress result
  | .rollback result, progress => ends.returns progress result

variable {ends : Ends V ρ} {progress : Progress V} {rest : Transaction V ρ} {k : K}
    {choice : Choice K} {free : K → Bool} {body : Transaction V ρ}

theorem Replay.wlp (replay : Replay body Past base progress rest)
    (before : wlp Past base ends body {}) :
    wlp Past base ends rest progress := by
  induction replay with
  | begin => exact before
  | find _ sees ih => exact ih _ sees
  | lockRows _ nodup few matched ih => exact ih _ nodup few matched
  | update _ present ih => exact ih.1 present
  | persist _ absent ih => exact ih.1 absent
  | persistAuto _ absent ih => exact ih _ absent

structure Ends.Implies (ends ends' : Ends V ρ) : Prop where
  commits : ∀ {progress result}, ends.commits progress result → ends'.commits progress result
  returns : ∀ {progress result}, ends.returns progress result → ends'.returns progress result
  raises : ∀ {fault}, ends.raises fault → ends'.raises fault

omit [DecidableEq K] in
theorem Ends.Implies.refl (ends : Ends V ρ) : ends.Implies ends := ⟨id, id, id⟩

theorem wlp_mono (past : ∀ snapshot, Past snapshot → Past' snapshot) {ends' : Ends V ρ}
    (implies : ends.Implies ends') (holds : wlp Past' base ends rest progress) :
    wlp Past base ends' rest progress := by
  induction rest generalizing progress with
  | find k next ih =>
    intro snapshot sees
    refine ih _ (holds snapshot (sees.imp_right fun first => ?_))
    exact ⟨first.1, past _ first.2.1, first.2.2⟩
  | lockRows matching limit next ih =>
    exact fun keys nodup few matched => ih _ (holds keys nodup few matched)
  | update k row next ih =>
    exact ⟨fun present => ih (holds.1 present), fun absent => implies.raises (holds.2 absent)⟩
  | persist k row next ih =>
    exact ⟨fun absent => ih (holds.1 absent), fun present => implies.raises (holds.2 present)⟩
  | persistAuto key row next ih => exact fun n absent => ih _ (holds n absent)
  | commit => exact implies.commits holds
  | rollback => exact implies.returns holds

theorem Replay.mem_locked (replay : Replay body Past base progress rest)
    (written : progress.writes k ≠ none) : k ∈ progress.locked := by
  have writes : ∀ {progress : Progress V} {k' : K} {row : V k'},
      (progress.writes k ≠ none → k ∈ progress.locked) →
        (progress.write k' row).writes k ≠ none → k ∈ (progress.write k' row).locked := by
    intro progress k' row ih written
    by_cases same : k = k'
    · exact mem_cons.mpr (.inl same)
    · rw [Progress.write_of_ne _ _ same] at written
      exact mem_cons_of_mem _ (ih written)
  induction replay with
  | begin => exact absurd rfl written
  | find _ _ ih => exact ih written
  | lockRows _ _ _ _ ih => exact mem_append_right _ (ih written)
  | update _ _ ih | persist _ _ ih | persistAuto _ _ ih => exact writes ih written

omit [DecidableEq K] in
theorem overlay_congr {writes : Database V} (same : base k = base' k) :
    overlay writes base k = overlay writes base' k := by
  rw [overlay, overlay, same]

theorem Replay.mono (replay : Replay body Past base progress rest)
    (past : ∀ snapshot, Past snapshot → Past' snapshot)
    (same : ∀ k ∈ progress.locked, base k = base' k) : Replay body Past' base' progress rest := by
  induction replay with
  | begin => exact .begin
  | find _ sees ih =>
    refine .find (ih same) (sees.imp_right fun first => ?_)
    obtain ⟨none, isPast, agrees⟩ := first
    exact ⟨none, past _ isPast, fun k mem => (agrees k mem).trans (same k mem)⟩
  | @lockRows progress matching limit next keys _ nodup few matched ih =>
    have sameRow : ∀ k ∈ keys, overlay progress.writes base k =
        overlay progress.writes base' k :=
      fun k mem => overlay_congr (same k (mem_append_left _ mem))
    have sameRows : rowsAt (overlay progress.writes base) keys =
        rowsAt (overlay progress.writes base') keys :=
      filterMap_congr fun k mem => by rw [sameRow k mem]
    rw [sameRows]
    refine .lockRows (ih fun k mem => same k (mem_append_right _ mem)) nodup few ?_
    intro k mem
    rw [← sameRow k mem]
    exact matched k mem
  | update _ present ih =>
    refine .update (ih fun k mem => same k (mem_cons_of_mem _ mem)) ?_
    rw [← overlay_congr (same _ mem_cons_self)]
    exact present
  | persist _ absent ih =>
    refine .persist (ih fun k mem => same k (mem_cons_of_mem _ mem)) ?_
    rw [← overlay_congr (same _ mem_cons_self)]
    exact absent
  | persistAuto _ absent ih =>
    refine .persistAuto (ih fun k mem => same k (mem_cons_of_mem _ mem)) ?_
    rw [← overlay_congr (same _ mem_cons_self)]
    exact absent

theorem mem_locked_write {k' : K} {row : V k} (unlocked : free k = true)
    (mem : k' ∈ (progress.write k row).locked) : k' ∈ progress.locked ∨ free k' = true := by
  rcases mem_cons.mp mem with rfl | before
  · exact .inr unlocked
  · exact .inl before

theorem Replay.perform {body rest' : Transaction V ρ} {progress' : Progress V}
    (replay : Replay body Past base progress rest) (present : Past base)
    (step : perform base free progress choice rest = some (.goesOn progress' rest')) :
    Replay body Past base progress' rest' ∧
      ∀ k ∈ progress'.locked, k ∈ progress.locked ∨ free k = true := by
  cases rest with
  | find k =>
    cases step
    refine ⟨.find replay ?_, fun k mem => .inl mem⟩
    cases taken : progress.snapshot with
    | none => exact .inr ⟨taken, present, fun k _ => rfl⟩
    | some => exact .inl taken
  | lockRows matching limit next =>
    obtain ⟨⟨nodup, few, matched⟩, goesOn⟩ := ite_none_right_eq_some.mp step
    cases goesOn
    refine ⟨.lockRows replay nodup few fun k mem => (matched k mem).2, fun k mem => ?_⟩
    exact (mem_append.mp mem).symm.imp_right fun chosen => (matched k chosen).1
  | update k row next =>
    obtain ⟨unlocked, performed⟩ := ite_none_right_eq_some.mp step
    split at performed <;> cases performed
    exact ⟨.update replay ‹_›, fun _ => mem_locked_write unlocked⟩
  | persist k row next =>
    obtain ⟨unlocked, performed⟩ := ite_none_right_eq_some.mp step
    split at performed <;> cases performed
    exact ⟨.persist replay (not_isSome_iff_eq_none.mp ‹_›), fun _ => mem_locked_write unlocked⟩
  | persistAuto key row next =>
    obtain ⟨⟨unlocked, absent⟩, goesOn⟩ := ite_none_right_eq_some.mp step
    cases goesOn
    exact ⟨.persistAuto replay absent, fun _ => mem_locked_write unlocked⟩
  | commit | rollback => cases step

theorem wlp_raises {fault : Bool} (holds : wlp Past base ends rest progress)
    (step : perform base free progress choice rest = some (.raises fault)) :
    ends.raises fault := by
  cases rest with
  | find | commit | rollback => cases step
  | lockRows | persistAuto => cases (ite_none_right_eq_some.mp step).2
  | update k row next =>
    have performed := (ite_none_right_eq_some.mp step).2
    split at performed <;> cases performed
    exact holds.2 (not_isSome_iff_eq_none.mp ‹_›)
  | persist k row next =>
    have performed := (ite_none_right_eq_some.mp step).2
    split at performed <;> cases performed
    exact holds.2 ‹_›

end Replay

/-! ## The proof rule -/

/-- Commits happen only where `condition` holds, of the call, of what its transaction has
done and of the committed rows. -/
def CommitsWhen (condition : workload.Call → Progress V → Database V → Prop) (s : State workload) :
    Action workload → Prop
  | .proceed i _ => ∀ call progress result onError faulted,
      s.sessions i = .running call progress (.commit result) onError faulted →
        condition call progress s.db
  | _ => True

theorem commitsWhen_of_forall {condition : workload.Call → Progress V → Database V → Prop}
    (always : ∀ call progress db, condition call progress db) (s : State workload)
    (action : Action workload) : CommitsWhen condition s action := by
  cases action with
  | proceed => exact fun _ _ _ _ _ _ => always _ _ _
  | _ => trivial

/-- The rows of the given kind that a transaction has written are still as its snapshot
showed them, so that it overwrites nothing it has not seen. -/
def Unchanged (kind : workload.Call → K → Prop) (call : workload.Call) (progress : Progress V)
    (db : Database V) : Prop :=
  ∀ k, kind call k → progress.writes k ≠ none →
    ∀ snapshot, progress.snapshot = some snapshot → snapshot k = db k

variable [DecidableEq K] {condition : workload.Call → Progress V → Database V → Prop}

/-- The states that a transaction begun in `entry` may see on the committed rows `base`. -/
def Between (Inv : Database V → Prop) (Grows : Database V → Database V → Prop)
    (entry base snapshot : Database V) : Prop :=
  Inv snapshot ∧ Grows entry snapshot ∧ Grows snapshot base

/-- What has to be shown about the transactions of a workload, each on its own.  `Pre` holds where a
procedure begins, or goes on after an error, and `Post` from the moment where a call returns.
`Quiet` holds of what is returned without a commit. -/
structure Outline (workload : Workload V ρ)
    (condition : workload.Call → Progress V → Database V → Prop) where
  Inv : Database V → Prop
  Grows : Database V → Database V → Prop
  Step : workload.Call → ρ → Database V → Database V → Prop
  Quiet : workload.Call → ρ → Prop
  Pre : workload.Call → Procedure V ρ → Bool → Database V → Prop
  Post : workload.Call → ρ → Bool → Database V → Prop
  grows_refl : ∀ db, Grows db db
  grows_trans : ∀ {db db' db''}, Grows db db' → Grows db' db'' → Grows db db''
  grows_of_step : ∀ {call result db db'}, Step call result db db' → Grows db db'
  post_grows : ∀ {call result faulted db db'}, Post call result faulted db → Grows db db' →
    Post call result faulted db'
  start : ∀ {call db}, Inv db → workload.admits db call = true →
    Pre call (workload.procedure call) false db
  done : ∀ {call result faulted db}, Inv db → Pre call (.done result) faulted db →
    Post call result faulted db ∧ Quiet call result
  fail : ∀ {call body onError faulted entry db},
    Pre call (.transaction body onError) faulted entry → Inv db → Grows entry db →
    Pre call onError true db
  verify : ∀ {call body onError faulted entry base},
    Pre call (.transaction body onError) faulted entry → Inv base → Grows entry base →
    wlp (Between Inv Grows entry base) base
      { commits := fun progress result => condition call progress base →
          Inv (overlay progress.writes base) ∧
            Step call result base (overlay progress.writes base) ∧
            Post call result faulted (overlay progress.writes base)
        returns := fun _ result => Post call result faulted base ∧ Quiet call result
        raises := fun fault => Pre call onError (faulted || fault) base }
      body {}

namespace Outline

variable (outline : Outline workload condition)

def Past : Database V → Database V → Database V → Prop := Between outline.Inv outline.Grows

def Good (db : Database V) (locks : K → Option Nat) (i : Nat) : Session workload → Prop
  | .idle => True
  | .running call progress rest onError faulted =>
    (∀ k ∈ progress.locked, locks k = some i) ∧
      ∃ body entry, outline.Pre call (.transaction body onError) faulted entry ∧
        outline.Grows entry db ∧ Replay body (outline.Past entry db) db progress rest
  | .returned call result faulted => outline.Post call result faulted db

structure Sound (s : State workload) : Prop where
  inv : outline.Inv s.db
  sessions : ∀ i, outline.Good s.db s.locks i (s.sessions i)

variable {outline} {db db' : Database V} {locks locks' : K → Option Nat} {i : Nat}
    {session : Session workload} {faulted : Bool}

theorem Good.frame (good : outline.Good db locks i session) (grows : outline.Grows db db')
    (same : ∀ k, locks k = some i → db k = db' k)
    (kept : ∀ k, locks k = some i → locks' k = some i) : outline.Good db' locks' i session := by
  cases session with
  | idle => trivial
  | running =>
    obtain ⟨held, body, entry, pre, later, replay⟩ := good
    refine ⟨fun k mem => kept k (held k mem), body, entry, pre, outline.grows_trans later grows, ?_⟩
    refine replay.mono (fun snapshot past => ?_) fun k mem => same k (held k mem)
    exact ⟨past.1, past.2.1, outline.grows_trans past.2.2 grows⟩
  | returned => exact outline.post_grows good grows

theorem Good.begin {call : workload.Call} {procedure : Procedure V ρ} (inv : outline.Inv db)
    (pre : outline.Pre call procedure faulted db) :
    outline.Good db locks i (begin call faulted procedure) := by
  cases procedure with
  | done => exact (outline.done inv pre).1
  | transaction body => exact ⟨nofun, body, db, pre, outline.grows_refl db, .begin⟩

variable {s t : State workload}

theorem Sound.update (sound : outline.Sound s) (i : Nat)
    (sessions : t.sessions = update s.sessions i session) (inv : outline.Inv t.db)
    (grows : outline.Grows s.db t.db) (same : ∀ j k, j ≠ i → s.locks k = some j → s.db k = t.db k)
    (kept : ∀ j k, j ≠ i → s.locks k = some j → t.locks k = some j)
    (good : outline.Good t.db t.locks i session) : outline.Sound t := by
  refine ⟨inv, fun j => ?_⟩
  rw [sessions]
  by_cases mine : j = i
  · rw [mine, update_self]
    exact good
  · rw [update_of_ne mine]
    exact (sound.sessions j).frame grows (fun k => same j k mine) fun k => kept j k mine

omit [DecidableEq K] in
theorem release_kept (s : State workload) (i j : Nat) (k : K) (ne : j ≠ i)
    (held : s.locks k = some j) : (s.release i).locks k = some j := by
  have other : some j ≠ some i := fun same => ne (some.inj same)
  simp only [State.release, held, if_neg other]

theorem Sound.wlp {s : State workload} (sound : outline.Sound s) {i : Nat} {call : workload.Call}
    {progress : Progress V} {rest : Transaction V ρ} {onError : Procedure V ρ}
    (running : s.sessions i = .running call progress rest onError faulted) :
    ∃ entry, outline.Grows entry s.db ∧
      wlp (outline.Past entry s.db) s.db
      { commits := fun progress result => condition call progress s.db →
          outline.Inv (overlay progress.writes s.db) ∧
            outline.Step call result s.db (overlay progress.writes s.db) ∧
            outline.Post call result faulted (overlay progress.writes s.db)
        returns := fun _ result => outline.Post call result faulted s.db ∧ outline.Quiet call result
        raises := fun fault => outline.Pre call onError (faulted || fault) s.db }
      rest progress := by
  have good := sound.sessions i
  rw [running] at good
  obtain ⟨_, body, entry, pre, later, replay⟩ := good
  exact ⟨entry, later, replay.wlp (outline.verify pre sound.inv later)⟩

variable {action : Action workload}

theorem Sound.step (sound : outline.Sound s) (allowed : CommitsWhen condition s action)
    (step : sessionStep s action = some t) :
    outline.Sound t := by
  cases sessionStep_cases step with
  | @start i _ _ admitted =>
    exact sound.update i rfl sound.inv (outline.grows_refl _) (fun _ _ _ _ => rfl)
      (fun _ _ _ held => held) (.begin sound.inv (outline.start sound.inv admitted))
  | @fail i _ _ _ _ _ running =>
    have good := sound.sessions i
    rw [running] at good
    obtain ⟨_, body, entry, pre, later, _⟩ := good
    exact sound.update i rfl sound.inv (outline.grows_refl _) (fun _ _ _ _ => rfl)
      (release_kept s i) (.begin sound.inv (outline.fail pre sound.inv later))
  | @proceed i _ _ progress _ _ _ outcome running performed =>
    have good := sound.sessions i
    rw [running] at good
    obtain ⟨held, body, entry, pre, later, replay⟩ := good
    have holds := replay.wlp (outline.verify pre sound.inv later)
    cases outcome with
    | goesOn progress' =>
      have present : outline.Past entry s.db s.db :=
        ⟨sound.inv, later, outline.grows_refl _⟩
      obtain ⟨replay', locked⟩ := replay.perform present performed
      refine sound.update i rfl sound.inv (outline.grows_refl _) (fun _ _ _ _ => rfl) ?_ ?_
      · intro j k ne other
        have untouched : k ∉ progress'.locked := by
          intro mem
          rcases locked k mem with before | unlocked
          · rw [held k before] at other
            exact ne (some.inj other).symm
          simp only [State.free, other, reduceCtorEq, some.injEq, false_or,
            decide_eq_true_eq] at unlocked
          exact ne unlocked
        simp only [State.apply, State.lock, State.setSession, if_neg untouched, other]
      · refine ⟨fun k mem => ?_, body, entry, pre, later, replay'⟩
        simp only [State.apply, State.lock, State.setSession, if_pos mem]
    | raises =>
      exact sound.update i rfl sound.inv (outline.grows_refl _) (fun _ _ _ _ => rfl)
        (release_kept s i) (.begin sound.inv (wlp_raises holds performed))
    | commits =>
      obtain rfl := perform_commits performed
      obtain ⟨inv, stepped, post⟩ := holds (allowed _ _ _ _ _ running)
      refine sound.update i rfl inv (outline.grows_of_step stepped) ?_ (release_kept s i) post
      intro j k ne other
      have unwritten : progress.writes k = none := by
        by_contra written
        rw [held k (replay.mem_locked written)] at other
        exact ne (some.inj other).symm
      simp only [State.apply, overlay, unwritten, none_or]
    | returns =>
      obtain rfl := perform_returns performed
      exact sound.update i rfl sound.inv (outline.grows_refl _) (fun _ _ _ _ => rfl)
        (release_kept s i) holds.1

/-- **The proof rule.**  What the outline says holds in every state that sessions reach
by steps that meet the condition, from a database that meets the invariant. -/
theorem sound_of_reachable (outline : Outline workload condition) {initial : Database V}
    (inv : outline.Inv initial) {s : State workload}
    (reachable : (system workload initial).ReachableUnder (CommitsWhen condition) s) :
    outline.Sound s :=
  reachable.induct ⟨inv, fun _ => trivial⟩ fun _ allowed step sound => sound.step allowed step

theorem Sound.db_step (sound : outline.Sound s) (allowed : CommitsWhen condition s action)
    (step : sessionStep s action = some t) :
    t.db = s.db ∨ ∃ i choice call progress result onError faulted,
      action = .proceed i choice ∧
        s.sessions i = .running call progress (.commit result) onError faulted ∧
        t.sessions i = .returned call result faulted ∧
        t.db = overlay progress.writes s.db ∧ outline.Step call result s.db t.db := by
  refine (sessionStep_db step).imp_right ?_
  rintro ⟨i, choice, call, progress, result, onError, faulted, rfl, running, returned, written⟩
  obtain ⟨entry, _, holds⟩ := sound.wlp running
  refine ⟨i, choice, call, progress, result, onError, faulted, rfl, running, returned, written, ?_⟩
  rw [written]
  exact (holds (allowed _ _ _ _ _ running)).2.1

theorem Sound.returned_step (sound : outline.Sound s) (allowed : CommitsWhen condition s action)
    (step : sessionStep s action = some t) {j : Nat} {call : workload.Call} {result : ρ}
    (returned : t.sessions j = .returned call result faulted) :
    s.sessions j = .returned call result faulted ∨ outline.Step call result s.db t.db ∨
      outline.Quiet call result := by
  have begins : ∀ {procedure : Procedure V ρ} {call' : workload.Call} {faulted' : Bool},
      outline.Pre call' procedure faulted' s.db →
      begin call' faulted' procedure = .returned call result faulted →
      outline.Quiet call result := by
    intro procedure call' faulted' pre ends
    cases procedure with
    | done =>
      cases ends
      exact (outline.done sound.inv pre).2
    | transaction => cases ends
  have other : ∀ {i : Nat} {session : Session workload}, j ≠ i →
      Function.update s.sessions i session j = .returned call result faulted →
      s.sessions j = .returned call result faulted :=
    fun ne same => by rwa [Function.update_of_ne ne] at same
  have own : ∀ {session : Session workload},
      Function.update s.sessions j session j = .returned call result faulted →
      session = .returned call result faulted :=
    fun same => by rwa [Function.update_self] at same
  cases sessionStep_cases step with
  | @start i _ _ admitted =>
    by_cases mine : j = i
    · subst mine
      exact .inr (.inr (begins (outline.start sound.inv admitted) (own returned)))
    · exact .inl (other mine returned)
  | @fail i _ _ _ _ _ running =>
    have good := sound.sessions i
    rw [running] at good
    obtain ⟨_, body, entry, pre, later, _⟩ := good
    by_cases mine : j = i
    · subst mine
      exact .inr (.inr (begins (outline.fail pre sound.inv later) (own returned)))
    · exact .inl (other mine returned)
  | @proceed i _ _ _ _ _ _ outcome running performed =>
    by_cases mine : j = i
    · subst mine
      obtain ⟨entry, _, holds⟩ := sound.wlp running
      cases outcome with
      | goesOn => cases own returned
      | raises => exact .inr (.inr (begins (wlp_raises holds performed) (own returned)))
      | commits =>
        obtain rfl := perform_commits performed
        cases own returned
        exact .inr (.inl (holds (allowed _ _ _ _ _ running)).2.1)
      | returns =>
        obtain rfl := perform_returns performed
        cases own returned
        exact .inr (.inr holds.2)
    · left
      cases outcome <;> exact other mine returned

/-- The requirement that commits keep `Inv` and make steps of the kind `Step`, and that `Post`
holds of what is returned. -/
def answerEnds (condition : workload.Call → Progress V → Database V → Prop)
    (Inv : Database V → Prop) (Step : workload.Call → Database V → Database V → Prop)
    (Post : workload.Call → ρ → Database V → Prop) (call : workload.Call) (base : Database V) :
    Ends V ρ where
  commits progress result := condition call progress base →
    Inv (overlay progress.writes base) ∧ Step call base (overlay progress.writes base) ∧
      Post call result (overlay progress.writes base)
  returns _ result := Post call result base
  raises _ := True

def ofAnswers (Inv : Database V → Prop) (Grows : Database V → Database V → Prop)
    (Step : workload.Call → Database V → Database V → Prop)
    (Post : workload.Call → ρ → Database V → Prop) (grows_refl : ∀ db, Grows db db)
    (grows_trans : ∀ {db db' db''}, Grows db db' → Grows db' db'' → Grows db db'')
    (grows_of_step : ∀ {call db db'}, Step call db db' → Grows db db')
    (post_grows : ∀ {call result db db'}, Post call result db → Grows db db' →
      Post call result db')
    (verify : ∀ {call entry base}, workload.admits entry call = true → Inv entry → Inv base →
      Grows entry base → ((workload.procedure call).Every fun body =>
        wlp (Between Inv Grows entry base) base (answerEnds condition Inv Step Post call base)
          body {}) ∧
        Post call (workload.procedure call).last base) : Outline workload condition where
  Inv := Inv
  Grows := Grows
  Step call _ := Step call
  Quiet _ _ := True
  Pre call procedure _ entry := ∀ base, Inv base → Grows entry base →
    (procedure.Every fun body =>
      wlp (Between Inv Grows entry base) base (answerEnds condition Inv Step Post call base)
        body {}) ∧ Post call procedure.last base
  Post call result _ := Post call result
  grows_refl := grows_refl
  grows_trans := grows_trans
  grows_of_step := grows_of_step
  post_grows := post_grows
  start inv admitted _ inv' grows := verify admitted inv inv' grows
  done inv pre := ⟨(pre _ inv (grows_refl _)).2, trivial⟩
  fail pre _ later base inv' grows := by
    obtain ⟨every, last⟩ := pre base inv' (grows_trans later grows)
    refine ⟨every.2.imp fun body holds => ?_, last⟩
    exact wlp_mono (fun _ past => ⟨past.1, grows_trans later past.2.1, past.2.2⟩) (.refl _) holds
  verify pre inv later := by
    have first := (pre _ inv later).1.1
    refine wlp_mono (fun _ past => past) ?_ first
    refine ⟨fun kept allowed => kept allowed, fun post => ⟨post, trivial⟩,
      fun _ base' inv' grows => ?_⟩
    obtain ⟨every, last⟩ := pre base' inv' (grows_trans later grows)
    refine ⟨every.2.imp fun body holds => ?_, last⟩
    exact wlp_mono (fun _ past => ⟨past.1, grows_trans later past.2.1, past.2.2⟩) (.refl _) holds

/-- The requirement that commits keep `Inv` and make steps of the kind `Step`. -/
def keepEnds (condition : workload.Call → Progress V → Database V → Prop) (Inv : Database V → Prop)
    (Step : workload.Call → Database V → Database V → Prop)
    (call : workload.Call) (base : Database V) : Ends V ρ where
  commits progress _ := condition call progress base →
    Inv (overlay progress.writes base) ∧ Step call base (overlay progress.writes base)
  returns _ _ := True
  raises _ := True

def ofCommits (Inv : Database V → Prop) (Grows : Database V → Database V → Prop)
    (Step : workload.Call → Database V → Database V → Prop) (grows_refl : ∀ db, Grows db db)
    (grows_trans : ∀ {db db' db''}, Grows db db' → Grows db' db'' → Grows db db'')
    (grows_of_step : ∀ {call db db'}, Step call db db' → Grows db db')
    (verify : ∀ {call entry base}, workload.admits entry call = true → Inv entry → Inv base →
      Grows entry base → (workload.procedure call).Every fun body =>
        wlp (Between Inv Grows entry base) base (keepEnds condition Inv Step call base)
          body {}) : Outline workload condition :=
  ofAnswers Inv Grows Step (fun _ _ _ => True) grows_refl grows_trans grows_of_step
    (fun _ _ => trivial) fun admitted inv inv' grows =>
      ⟨(verify admitted inv inv' grows).imp fun _ holds =>
        wlp_mono (fun _ past => past)
          ⟨fun kept allowed => ⟨(kept allowed).1, (kept allowed).2, trivial⟩, fun _ => trivial,
            fun _ => trivial⟩ holds, trivial⟩

end Outline

end RepeatableRead
