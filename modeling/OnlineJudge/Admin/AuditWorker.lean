import OnlineJudge.Library.TransitionSystem

/-!
# The worker of the audit log

`AdminAuditWorker` (`admin_audit_worker.cpp`): calls of `Enqueue`, the thread of `Run` and one call
of `Stop`, which stores `running_` and notifies without `mutex_` (`hung_after_stop`).
-/

namespace OnlineJudge.Admin.AuditWorker

open TransitionSystem

inductive Run (Item : Type)
  /-- Before the mutex, at the top of the loop or after a wakeup. -/
  | evaluating
  /-- Between a predicate that is false and the block, with the mutex. -/
  | deciding
  | blocked
  /-- Before an attempt of `InsertAdminAuditLog`. -/
  | persisting (item : Item) (attempt : Nat)
  | exited
  deriving DecidableEq

inductive Stop
  | idle | stored | joining | returned
  deriving DecidableEq

structure State (Item : Type) where
  queue : List Item := []
  running : Bool := true
  run : Run Item := .evaluating
  /-- An `Enqueue` that holds the mutex and has passed its check. -/
  enqueuing : Option Item := none
  stop : Stop := .idle
  /-- The records for which `Enqueue` has returned true. -/
  accepted : List Item := []
  /-- The records that `InsertAdminAuditLog` has been called for. -/
  handed : List Item := []

inductive Action (Item : Type)
  | check (item : Item)
  | push
  | evaluate
  | block
  | persist (persisted : Bool)
  | store
  | notify
  | join

variable {Item : Type}

/-- A notification wakes a thread that is blocked. -/
def Run.notified : Run Item → Run Item
  | .blocked => .evaluating
  | run => run

def Run.holds : Run Item → Bool
  | .deciding => true
  | _ => false

/-- The loop over at most three attempts. -/
def afterAttempt (item : Item) (attempt : Nat) (persisted : Bool) : Run Item :=
  if persisted || attempt ≥ 2 then .evaluating else .persisting item (attempt + 1)

def State.mutexFree (s : State Item) : Bool := !s.run.holds && s.enqueuing.isNone

/-- The section of `Run` under the mutex, up to the block. -/
def State.evaluate (s : State Item) : State Item :=
  match s.queue with
  | item :: rest => { s with queue := rest, run := .persisting item 0 }
  | [] => { s with run := if s.running then .deciding else .exited }

def step (capacity : Nat) (s : State Item) : Action Item → Option (State Item)
  | .check item =>
    if s.mutexFree then
      if !s.running || s.queue.length ≥ capacity then some s
      else some { s with enqueuing := some item }
    else none
  | .push =>
    s.enqueuing.map fun item =>
      { s with
        queue := s.queue ++ [item]
        accepted := s.accepted ++ [item]
        enqueuing := none
        run := s.run.notified }
  | .evaluate =>
    match s.run with
    | .evaluating => if s.mutexFree then some s.evaluate else none
    | _ => none
  | .block => if s.run.holds then some { s with run := .blocked } else none
  | .persist persisted =>
    match s.run with
    | .persisting item attempt =>
      some { s with
        handed := if attempt = 0 then s.handed ++ [item] else s.handed
        run := afterAttempt item attempt persisted }
    | _ => none
  | .store => if s.stop = .idle then some { s with running := false, stop := .stored } else none
  | .notify =>
    if s.stop = .stored then some { s with run := s.run.notified, stop := .joining } else none
  | .join =>
    match s.run with
    | .exited => if s.stop = .joining then some { s with stop := .returned } else none
    | _ => none

def system (Item : Type) (capacity : Nat) : TransitionSystem (State Item) (Action Item) :=
  ⟨{}, step capacity⟩

/-! ## Order and draining -/

/-- The record that has left the queue and has not been handed over yet. -/
def Run.inHand : Run Item → List Item
  | .persisting item 0 => [item]
  | _ => []

/-- `Stop` does not notify while `Run` is about to block. -/
def Prompt (s : State Item) (a : Action Item) : Prop :=
  match a with
  | .notify => s.run.holds = false
  | _ => True

/-- `prompt` says that `Stop` has not notified while `Run` was about to block. -/
structure Orderly (prompt : Prop) (s : State Item) : Prop where
  order : s.accepted = s.handed ++ s.run.inHand ++ s.queue
  exited : s.run = .exited → s.running = false ∧ s.queue = [] ∧ s.enqueuing = none
  stopped : s.stop ≠ .idle → s.running = false
  returned : s.stop = .returned → s.run = .exited
  awake : prompt → s.stop = .joining → s.run.holds = false ∧ s.run ≠ .blocked

variable {s t : State Item} {a : Action Item} {capacity : Nat}

@[simp] theorem notified_inHand (run : Run Item) : run.notified.inHand = run.inHand := by
  cases run <;> rfl

@[simp] theorem notified_eq_exited (run : Run Item) : run.notified = .exited ↔ run = .exited := by
  cases run <;> simp [Run.notified]

theorem eq_deciding_of_holds {run : Run Item} (holds : run.holds = true) : run = .deciding := by
  cases run <;> first | rfl | cases holds

theorem notified_awake {run : Run Item} (free : run.holds = false) :
    run.notified.holds = false ∧ run.notified ≠ .blocked := by
  cases run with
  | deciding => cases free
  | _ => exact ⟨rfl, nofun⟩

theorem afterAttempt_spec (item : Item) (attempt : Nat) (persisted : Bool) :
    (afterAttempt item attempt persisted).inHand = [] ∧
      (afterAttempt item attempt persisted).holds = false ∧
      afterAttempt item attempt persisted ≠ .blocked ∧
      afterAttempt item attempt persisted ≠ .exited := by
  unfold afterAttempt
  split <;> exact ⟨rfl, rfl, nofun, nofun⟩

theorem Orderly.step {prompt : Prop} (orderly : Orderly prompt s) (prompts : prompt → Prompt s a)
    (taken : step capacity s a = some t) : Orderly prompt t := by
  obtain ⟨order, exited, stopped, returned, awake⟩ := orderly
  cases a with simp only [AuditWorker.step] at taken
  | check =>
    obtain ⟨-, taken⟩ := Option.ite_none_right_eq_some.mp taken
    split at taken
    case isTrue => cases taken; exact ⟨order, exited, stopped, returned, awake⟩
    case isFalse accepts =>
      cases taken
      have runs : s.running = true := by
        simp only [Bool.or_eq_true, Bool.not_eq_true', not_or, Bool.not_eq_false] at accepts
        exact accepts.1
      refine ⟨order, fun done => ?_, stopped, returned, awake⟩
      cases (exited done).1.symm.trans runs
  | push =>
    obtain ⟨item, pending, rfl⟩ := Option.map_eq_some_iff.mp taken
    refine ⟨by simp [order], fun done => ?_, stopped, fun done => ?_,
      fun isPrompt joining => notified_awake (awake isPrompt joining).1⟩
    · cases pending.symm.trans (exited ((notified_eq_exited _).mp done)).2.2
    · exact (notified_eq_exited _).mpr (returned done)
  | evaluate =>
    split at taken
    case h_2 => cases taken
    case h_1 evaluating =>
      obtain ⟨free, taken⟩ := Option.ite_none_right_eq_some.mp taken
      cases taken
      have notDone : s.stop ≠ .returned := fun done => by
        cases evaluating.symm.trans (returned done)
      rw [evaluating] at order
      unfold State.evaluate
      split
      case h_1 item rest queue =>
        rw [queue] at order
        exact ⟨by simp [order, Run.inHand], nofun, stopped, fun done => absurd done notDone,
          fun _ _ => ⟨rfl, nofun⟩⟩
      case h_2 queue =>
        rw [queue] at order
        refine ⟨?_, fun done => ?_, stopped, fun done => absurd done notDone, fun _ joining => ?_⟩
        · by_cases runs : s.running = true <;> simp [order, queue, runs, Run.inHand]
        · simp [State.mutexFree, evaluating] at free
          simp at done
          exact ⟨done, queue, free.2⟩
        · have halted : s.running = false := stopped (by rw [joining]; nofun)
          simp [halted, Run.holds]
  | block =>
    obtain ⟨holds, taken⟩ := Option.ite_none_right_eq_some.mp taken
    cases taken
    have deciding := eq_deciding_of_holds holds
    refine ⟨by rw [order, deciding]; rfl, nofun, stopped, fun done => ?_,
      fun isPrompt joining => ?_⟩
    · cases deciding.symm.trans (returned done)
    · cases holds.symm.trans (awake isPrompt joining).1
  | persist persisted =>
    split at taken
    case h_2 => cases taken
    case h_1 item attempt persisting =>
      cases taken
      obtain ⟨nothing, free, notBlocked, notExited⟩ := afterAttempt_spec item attempt persisted
      rw [persisting] at order
      refine ⟨?_, fun done => absurd done notExited, stopped, fun done => ?_,
        fun _ _ => ⟨free, notBlocked⟩⟩
      · rw [nothing]
        cases attempt <;> simp [order, Run.inHand]
      · cases persisting.symm.trans (returned done)
  | store =>
    obtain ⟨idle, taken⟩ := Option.ite_none_right_eq_some.mp taken
    cases taken
    exact ⟨order, fun done => ⟨rfl, (exited done).2⟩, fun _ => rfl, nofun, nofun⟩
  | notify =>
    obtain ⟨stored, taken⟩ := Option.ite_none_right_eq_some.mp taken
    cases taken
    exact ⟨by simp [order], fun done => exited ((notified_eq_exited _).mp done),
      fun _ => stopped (by rw [stored]; nofun), nofun,
      fun isPrompt _ => notified_awake (prompts isPrompt)⟩
  | join =>
    split at taken
    case h_2 => cases taken
    case h_1 done =>
      obtain ⟨joining, taken⟩ := Option.ite_none_right_eq_some.mp taken
      cases taken
      exact ⟨order, exited, fun _ => (exited done).1, fun _ => done, nofun⟩

/-- After its notification, `Stop` waits for a thread that no step wakes. -/
def Hung (capacity : Nat) (s : State Item) : Prop :=
  s.stop = .joining ∧ s.run = .blocked ∧ ∀ a t, step capacity s a = some t → t.run = .blocked

theorem orderly_start {prompt : Prop} : Orderly prompt (system Item capacity).initial :=
  ⟨rfl, nofun, fun running => absurd rfl running, nofun, nofun⟩

theorem audit_worker_shutdown (Item : Type) (capacity : Nat) :
    (∀ s, (system Item capacity).Reachable s →
      s.handed <+: s.accepted ∧ (s.stop = .returned → s.queue = [] ∧ s.handed = s.accepted)) ∧
      ∀ s, (system Item capacity).ReachableUnder Prompt s → ¬ Hung capacity s := by
  refine ⟨fun s reachable => ?_, fun s reachable hung => ?_⟩
  · have orderly : Orderly False s :=
      reachable.induct orderly_start fun _ taken orderly => orderly.step nofun taken
    refine ⟨⟨s.run.inHand ++ s.queue, by rw [orderly.order, List.append_assoc]⟩, fun done => ?_⟩
    have exited := orderly.returned done
    have drained := (orderly.exited exited).2.1
    exact ⟨drained, by rw [orderly.order, exited, drained]; simp [Run.inHand]⟩
  · have orderly : Orderly True s := reachable.induct orderly_start
      fun _ prompt taken orderly => orderly.step (fun _ => prompt) taken
    exact (orderly.awake trivial hung.1).2 hung.2.1

theorem hung_after_stop : ∃ s, (system Nat 10000).Reachable s ∧ Hung 10000 s := by
  refine ⟨{ running := false, run := .blocked, stop := .joining }, ?_, rfl, rfl, ?_⟩
  · have ran : (system Nat 10000).run {} [.evaluate, .store, .notify, .block] =
        some { running := false, run := .blocked, stop := .joining } := rfl
    exact run_reaches ran
  · intro a t taken
    cases a <;> cases taken
    rfl

end OnlineJudge.Admin.AuditWorker
