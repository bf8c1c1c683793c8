import Mathlib
import OnlineJudge.Library.TransitionSystem

/-!
# Cache metrics are conserved

`RecordCacheMetrics` (`model_base.hpp`) adds to the atomic counters of an action type.
`FlushCacheMetrics` (`oj_model.hpp`) takes the counters of one type after the other, and commits
what it has taken as one row or gives it back.
-/

namespace OnlineJudge.Metrics

abbrev ActionType := Fin 5

/-- The counters of `ActionMetrics`. -/
inductive Counter
  | totalRequests | cacheHits | dbFallbacks | totalMs
  deriving DecidableEq

/-- A call of `RecordCacheMetrics`, with the `fetch_add`s it has left. -/
structure Call where
  actionType : ActionType
  left : List (Counter × Int)

def recordCacheMetrics (actionType : ActionType) (cacheHit dbFallback : Bool) (costMs : Int) :
    Call :=
  ⟨actionType, (.totalRequests, 1) :: (if cacheHit then [(.cacheHits, 1)] else []) ++
    (if dbFallback then [(.dbFallbacks, 1)] else []) ++ [(.totalMs, costMs)]⟩

inductive Phase
  /-- The `exchange`s that are left. -/
  | take (left : List Counter)
  /-- The `fetch_add`s that are left after `PersistCacheMetricSnapshot` has failed. -/
  | giveBack (left : List Counter)

/-- `FlushCacheMetrics` in one round of its loop, with the values it has taken. -/
structure Flush where
  actionType : ActionType
  phase : Phase := .take [.cacheHits, .dbFallbacks, .totalMs, .totalRequests]
  taken : Counter → Int := fun _ => 0

structure State where
  live : ActionType → Counter → Int := fun _ _ => 0
  rows : List (ActionType × (Counter → Int)) := []
  calls : List Call := []
  /-- The call of `FlushCacheMetrics` that holds the mutex. -/
  flush : Option Flush := none
  /-- What has been added so far. -/
  recorded : ActionType → Counter → Int := fun _ _ => 0

inductive Action
  | record (actionType : ActionType) (cacheHit dbFallback : Bool) (costMs : Int)
  /-- The next operation of a call of `RecordCacheMetrics`. -/
  | add (call : Nat)
  | lock
  /-- The next operation of `FlushCacheMetrics`; `commits` where the database lets a row through. -/
  | flush (commits : Bool)

def add (values : ActionType → Counter → Int) (actionType : ActionType) (counter : Counter)
    (amount : Int) : ActionType → Counter → Int := fun t c =>
  if t = actionType ∧ c = counter then values t c + amount else values t c

/-- The next round of the loop, or its end. -/
def Flush.next (flush : Flush) : Option Flush :=
  if more : flush.actionType.val + 1 < 5 then some { actionType := ⟨_, more⟩ } else none

/-- `PersistCacheMetricSnapshot` refuses negative values. -/
def acceptable (taken : Counter → Int) : Bool :=
  0 ≤ taken .totalRequests && 0 ≤ taken .cacheHits && 0 ≤ taken .dbFallbacks && 0 ≤ taken .totalMs

def isZero (taken : Counter → Int) : Bool :=
  taken .totalRequests = 0 && taken .cacheHits = 0 && taken .dbFallbacks = 0 && taken .totalMs = 0

def flushStep (s : State) (flush : Flush) (commits : Bool) : State :=
  match flush.phase with
  | .take (counter :: left) =>
    let value := s.live flush.actionType counter
    { s with
      live := add s.live flush.actionType counter (-value)
      flush := some { flush with
        phase := .take left
        taken := fun c => if c = counter then value else flush.taken c } }
  | .take [] =>
    if isZero flush.taken then { s with flush := flush.next }
    else if commits && acceptable flush.taken then
      { s with rows := (flush.actionType, flush.taken) :: s.rows, flush := flush.next }
    else
      { s with flush := some { flush with
        phase := .giveBack [.totalRequests, .cacheHits, .dbFallbacks, .totalMs] } }
  | .giveBack (counter :: left) =>
    { s with
      live := add s.live flush.actionType counter (flush.taken counter)
      flush := some { flush with phase := .giveBack left } }
  | .giveBack [] => { s with flush := flush.next }

def step (s : State) : Action → Option State
  | .record actionType cacheHit dbFallback costMs =>
    some { s with calls := s.calls ++ [recordCacheMetrics actionType cacheHit dbFallback costMs] }
  | .add i =>
    match s.calls[i]? with
    | some ⟨actionType, (counter, amount) :: left⟩ =>
      some { s with
        live := add s.live actionType counter amount
        calls := s.calls.set i ⟨actionType, left⟩
        recorded := add s.recorded actionType counter amount }
    | _ => none
  | .lock => if s.flush.isSome then none else some { s with flush := some { actionType := 0 } }
  | .flush commits => s.flush.map fun flush => flushStep s flush commits

def system : TransitionSystem State Action := ⟨{}, step⟩

/-- The total of the committed rows. -/
def State.committed (s : State) (actionType : ActionType) (counter : Counter) : Int :=
  (s.rows.map fun row => if row.1 = actionType then row.2 counter else 0).sum

/-- What a flush has taken and neither committed nor given back. -/
def Flush.holds (flush : Flush) (actionType : ActionType) (counter : Counter) : Int :=
  if actionType = flush.actionType then
    match flush.phase with
    | .take left => if counter ∈ left then 0 else flush.taken counter
    | .giveBack left => if counter ∈ left then flush.taken counter else 0
  else 0

def State.inProgress (s : State) (actionType : ActionType) (counter : Counter) : Int :=
  match s.flush with
  | some flush => flush.holds actionType counter
  | none => 0

def Phase.left : Phase → List Counter
  | .take left | .giveBack left => left

/-- What can be found of a counter. -/
def State.total (s : State) (actionType : ActionType) (counter : Counter) : Int :=
  s.committed actionType counter + s.live actionType counter + s.inProgress actionType counter

structure Conserved (s : State) : Prop where
  /-- No counter is taken or given back twice. -/
  once : ∀ flush ∈ s.flush, flush.phase.left.Nodup
  total : s.total = s.recorded

variable {s t : State} {flush : Flush} {actionType : ActionType} {counter : Counter}

theorem eq_zero_of_isZero {taken : Counter → Int} (zero : isZero taken = true) (counter : Counter) :
    taken counter = 0 := by
  simp only [isZero, Bool.and_eq_true, decide_eq_true_eq] at zero
  cases counter <;> simp [zero]

attribute [local simp] State.total State.committed State.inProgress Flush.holds Phase.left add

theorem next_spec {after : Flush} (next : flush.next = some after) :
    after.phase.left.Nodup ∧ ∀ actionType counter, after.holds actionType counter = 0 := by
  obtain ⟨more, next⟩ := Option.dite_none_right_eq_some.mp next
  cases next
  refine ⟨by simp, fun actionType counter => ?_⟩
  cases counter <;> simp

theorem inProgress_next (flush : Flush) (next : s.flush = flush.next) :
    s.inProgress actionType counter = 0 := by
  rw [State.inProgress, next]
  split
  case h_1 after next => exact (next_spec next).2 _ _
  case h_2 => rfl

theorem flushStep_nodup (once : flush.phase.left.Nodup) (commits : Bool) :
    ∀ after ∈ (flushStep s flush commits).flush, after.phase.left.Nodup := by
  have round : ∀ after ∈ flush.next, after.phase.left.Nodup := fun _ next => (next_spec next).1
  unfold flushStep
  split
  case h_1 phase | h_3 phase =>
    rw [phase] at once
    rintro _ ⟨⟩
    exact once.of_cons
  case h_2 =>
    split
    · exact round
    split
    · exact round
    · rintro _ ⟨⟩
      simp
  case h_4 => exact round

theorem flushStep_total (present : s.flush = some flush) (once : flush.phase.left.Nodup)
    (commits : Bool) : (flushStep s flush commits).total = s.total := by
  funext actionType counter
  have before : s.inProgress actionType counter = flush.holds actionType counter := by
    rw [State.inProgress, present]
  unfold State.total
  rw [before, flushStep]
  split
  case h_1 first left phase | h_3 first left phase =>
    rw [phase] at once
    have new := (List.nodup_cons.mp once).1
    by_cases it : actionType = flush.actionType ∧ counter = first
    · obtain ⟨rfl, rfl⟩ := it
      simp [phase, new] <;> omega
    · by_cases here : actionType = flush.actionType <;> simp_all
  case h_2 phase =>
    split
    case isTrue zero =>
      rw [inProgress_next flush rfl]
      simp [phase, eq_zero_of_isZero zero]
    case isFalse =>
      split
      case isTrue =>
        rw [inProgress_next flush rfl]
        by_cases here : actionType = flush.actionType
        · simp [phase, here]
          omega
        · simp [here, Ne.symm here]
      case isFalse => cases counter <;> simp [phase]
  case h_4 phase =>
    rw [inProgress_next flush rfl]
    simp [phase]

theorem Conserved.step {a : Action} (conserved : Conserved s) (taken : step s a = some t) :
    Conserved t := by
  obtain ⟨once, total⟩ := conserved
  cases a with simp only [Metrics.step] at taken
  | record =>
    cases taken
    exact ⟨once, total⟩
  | add i =>
    split at taken
    case h_1 actionType counter amount _ _ =>
      cases taken
      refine ⟨once, funext fun t => funext fun c => ?_⟩
      have before := congrFun (congrFun total t) c
      by_cases it : t = actionType ∧ c = counter
      · simp [it] at before ⊢
        omega
      · simpa [it] using before
    case h_2 => cases taken
  | lock =>
    split at taken
    case isTrue => cases taken
    case isFalse free =>
      cases taken
      rw [Bool.not_eq_true, Option.isSome_eq_false_iff, Option.isNone_iff_eq_none] at free
      refine ⟨by rintro _ ⟨⟩; simp, ?_⟩
      rw [← total]
      funext actionType counter
      cases counter <;> simp [free]
  | flush commits =>
    obtain ⟨flush, present, rfl⟩ := Option.map_eq_some_iff.mp taken
    have distinct := once flush present
    refine ⟨flushStep_nodup distinct commits, ?_⟩
    rw [flushStep_total present distinct, total]
    unfold flushStep
    repeat' split
    all_goals rfl

theorem metrics_conserved (reachable : system.Reachable s) (actionType : ActionType)
    (counter : Counter) :
    s.committed actionType counter + s.live actionType counter + s.inProgress actionType counter =
      s.recorded actionType counter := by
  have conserved : Conserved s := by
    refine reachable.induct ⟨by rintro _ ⟨⟩, ?_⟩ fun _ taken before => before.step taken
    funext actionType counter
    rfl
  exact congrFun (congrFun conserved.total actionType) counter

theorem metrics_conserved_while_taken : ∃ s, system.Reachable s ∧ s.inProgress 0 .cacheHits = 1 ∧
    s.committed 0 .cacheHits + s.live 0 .cacheHits + s.inProgress 0 .cacheHits =
      s.recorded 0 .cacheHits := by
  obtain ⟨s, reachable, holds⟩ := system.exists_of_run
    [.record 0 true false 5, .add 0, .add 0, .lock, .flush true]
    (fun s => s.inProgress 0 .cacheHits = 1) (by decide)
  exact ⟨s, reachable, of_decide_eq_true holds, metrics_conserved reachable 0 .cacheHits⟩

end OnlineJudge.Metrics
