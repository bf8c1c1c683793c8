import Mathlib
import OnlineJudge.Runtime.Accounting
import OnlineJudge.Runtime.Dispatch

/-!
# Every call is answered once

A method of the completion that finds `completed_` true does nothing, so two methods must not
overlap and one must be called.
-/

namespace OnlineJudge.Runtime

open Function Option List Call Executor

variable {config : Config}

/-! ## The completion -/

/-- `done` was run, once and last. -/
def Answered (log : List Effect) : Prop := ∃ before, log = before ++ [.done] ∧ .done ∉ before

def Steady (completed : Bool) (log : List Effect) : Prop :=
  completed = false ∧ .done ∉ log ∨ completed = true ∧ Answered log

def Holds (completed : Bool) (log : List Effect) : Progress → Prop
  | .entered _ => Steady completed log
  | .writing .. | .running => completed = true ∧ .done ∉ log
  | .ended => completed = true ∧ Answered log

variable {throws : Throws} {next call : Call} {progress : Progress} {log : List Effect}
    {calls : CallId → Call} {executor : Executor config CallId} {id : CallId} {request : Request}
    {later : Progress} {body : Body} {completed : Bool} {event : Event}

theorem done_not_mem_setDispatchFailure {code : Nat} {message : String} {retryable : Bool} :
    .done ∉ setDispatchFailure request code message retryable throws := by
  have writes : .done ∉ failureWrites request code message retryable := by
    unfold failureWrites
    split_ifs <;> simp
  unfold setDispatchFailure
  dsimp only
  split
  · exact writes
  rw [mem_append, not_or]
  refine ⟨fun member => writes (mem_of_mem_take member), ?_⟩
  split_ifs <;> simp

theorem Holds.advance (holds : Holds call.completed call.log progress)
    (advanced : call.advance throws progress = some (next, later)) :
    Holds next.completed next.log later := by
  cases progress with
  | entered method =>
    rw [advance] at advanced
    -- `completed_.exchange(true)`: a method that is not the first returns at once.
    split at advanced
    · rename_i completed
      cases advanced
      exact holds.resolve_left fun pending => absurd completed (by simp [pending.1])
    · rename_i pending
      have none : .done ∉ call.log := (holds.resolve_right fun done => pending done.1).2
      cases method <;> cases advanced <;> exact ⟨rfl, none⟩
  | writing =>
    cases advanced
    refine ⟨holds.1, ?_⟩
    rw [mem_append, not_or]
    exact ⟨holds.2, done_not_mem_setDispatchFailure⟩
  | running =>
    cases advanced
    exact ⟨holds.1, call.log, rfl, holds.2⟩
  | ended => cases advanced

theorem Call.advance_frame (advanced : call.advance throws progress = some (next, later)) :
    next = { call with completed := next.completed, log := next.log } := by
  cases progress with
  | entered method =>
    rw [advance] at advanced
    split at advanced
    · cases advanced
      rfl
    · cases method <;> cases advanced <;> rfl
  | writing | running => cases advanced; rfl
  | ended => cases advanced

/-- **The destructor answers a call that was not answered.** -/
theorem Steady.destroy (steady : Steady call.completed call.log) (throws : Throws) :
    (call.destroy throws).completed = true ∧ Answered (call.destroy throws).log := by
  unfold Call.destroy
  split
  · rename_i completed
    exact steady.resolve_left fun pending => absurd completed (by simp [pending.1])
  rename_i pending
  have none : .done ∉ call.log := (steady.resolve_right fun done => pending done.1).2
  refine ⟨rfl, _, rfl, ?_⟩
  rw [mem_append, not_or]
  exact ⟨none, done_not_mem_setDispatchFailure⟩

/-! ## One call -/

def Body.early : Body → Bool
  | .waiting | .entered | .allow | .invoking => true
  | .completing _ | .ended => false

structure Sound (call : Call) : Prop where
  absent : call.caller = .absent → call.task = false
  failing : ∀ progress, call.caller = .failing progress →
    call.task = false ∧ call.body = .waiting ∧ Holds call.completed call.log progress
  early : call.task = true → call.body.early = true → call.completed = false
  idle : call.task = false → ∀ progress, call.body ≠ .completing progress
  completing : ∀ progress, call.body = .completing progress → Holds call.completed call.log progress
  steady : (∀ progress, call.caller ≠ .failing progress) →
    (∀ progress, call.body ≠ .completing progress) → Steady call.completed call.log
  gone : call.caller = .returned → call.task = false → call.completed = true ∧ Answered call.log

theorem Sound.new {caller : Caller} {task : Bool}
    (failing : ∀ progress, caller = .failing progress → task = false ∧ ∃ m, progress = .entered m)
    (here : caller ≠ .absent ∧ caller ≠ .returned) : Sound { request, caller, task } := by
  have steady : Steady false [] := .inl ⟨rfl, not_mem_nil⟩
  refine {
    absent := fun isAbsent => absurd isAbsent here.1
    failing := fun progress isFailing => ?_
    early := fun _ _ => rfl
    idle := nofun
    completing := nofun
    steady := fun _ _ => steady
    gone := fun isReturned => absurd isReturned here.2 }
  obtain ⟨noTask, method, rfl⟩ := failing progress isFailing
  exact ⟨noTask, rfl, steady⟩

theorem Sound.fails (sound : Sound call) (took : call.fails throws = some next) : Sound next := by
  unfold Call.fails at took
  split at took <;> [skip; cases took]
  rename_i progress isFailing
  obtain ⟨⟨middle, later⟩, advanced, rfl⟩ := map_eq_some_iff.mp took
  obtain ⟨noTask, waiting, holds⟩ := sound.failing progress isFailing
  have frame := advance_frame advanced
  have after := holds.advance advanced
  have noTask : middle.task = false := by rw [frame, noTask]
  have waiting : middle.body = .waiting := by rw [frame, waiting]
  have notCompleting {progress : Progress} : middle.body ≠ .completing progress := by
    rw [waiting]
    exact nofun
  exact {
    absent := nofun
    failing := fun _ same => by
      cases same
      exact ⟨noTask, waiting, after⟩
    early := fun task => absurd task (ne_true_of_eq_false noTask)
    idle := fun _ _ completing => notCompleting completing
    completing := fun _ completing => (notCompleting completing).elim
    steady := fun notFailing => absurd rfl (notFailing later)
    gone := nofun }

theorem Call.destroy_frame (call : Call) (throws : Throws) :
    (call.destroy throws).caller = call.caller ∧ (call.destroy throws).task = call.task ∧
      (call.destroy throws).body = call.body := by
  unfold destroy
  split <;> exact ⟨rfl, rfl, rfl⟩

theorem Sound.destroyed (returned : call.caller = .returned) (noTask : call.task = false)
    (idle : ∀ progress, call.body ≠ .completing progress)
    (steady : Steady call.completed call.log) : Sound (call.destroy throws) := by
  obtain ⟨sameCaller, sameTask, sameBody⟩ := call.destroy_frame throws
  rw [returned] at sameCaller
  rw [noTask] at sameTask
  have answered := steady.destroy throws
  refine {
    absent := fun _ => sameTask
    failing := fun _ isFailing => ?_
    early := fun task => absurd task (ne_true_of_eq_false sameTask)
    idle := fun _ => sameBody ▸ idle
    completing := fun progress completing => absurd (sameBody.symm.trans completing) (idle progress)
    steady := fun _ _ => .inr answered
    gone := fun _ _ => answered }
  rw [sameCaller] at isFailing
  cases isFailing

theorem Sound.returns (sound : Sound call) (took : call.returns throws = some next) :
    Sound next := by
  have frame (steady : call.task = false → Steady call.completed call.log) : Sound
      (if call.task then { call with caller := .returned }
        else { call with caller := .returned }.destroy throws) := by
    split
    · rename_i task
      exact {
        absent := nofun
        failing := nofun
        early := sound.early
        idle := sound.idle
        completing := sound.completing
        steady := fun _ => sound.steady fun progress isFailing =>
          absurd (sound.failing progress isFailing).1 (by simp [task])
        gone := fun _ noTask => absurd (show call.task = false from noTask) (by simp [task]) }
    · rename_i noTask
      rw [Bool.not_eq_true] at noTask
      exact .destroyed rfl noTask (sound.idle noTask) (steady noTask)
  unfold Call.returns at took
  split at took <;> cases took
  · rename_i isReturning
    refine frame fun noTask => sound.steady (fun progress => ?_) (sound.idle noTask)
    rw [isReturning]
    exact nofun
  · rename_i isFailing
    exact frame fun _ => .inr (sound.failing _ isFailing).2.2

theorem Sound.dropTask (sound : Sound call) (throws : Throws) (task : call.task = true)
    (idle : ∀ progress, call.body ≠ .completing progress) :
    Sound (call.dropTask throws) := by
  have notFailing : ∀ progress, call.caller ≠ .failing progress := fun progress isFailing =>
    absurd (sound.failing progress isFailing).1 (by simp [task])
  have steady := sound.steady notFailing idle
  unfold Call.dropTask
  split
  · rename_i returned
    exact .destroyed returned rfl idle steady
  rename_i notReturned
  exact {
    absent := fun _ => rfl
    failing := fun progress isFailing => absurd isFailing (notFailing progress)
    early := nofun
    idle := fun _ => idle
    completing := fun progress completing => absurd completing (idle progress)
    steady := fun _ _ => steady
    gone := fun returned => absurd returned notReturned }

theorem Sound.setBody (sound : Sound call) (task : call.task = true)
    (early : body.early = true → completed = false)
    (completing : ∀ progress, body = .completing progress → Holds completed log progress)
    (steady : (∀ progress, body ≠ .completing progress) → Steady completed log) :
    Sound { call with body, completed, log } where
  absent := sound.absent
  failing := fun progress isFailing => absurd (sound.failing progress isFailing).1 (by simp [task])
  early := fun _ => early
  idle := fun noTask => absurd (show call.task = false from noTask) (by simp [task])
  completing := completing
  steady := fun _ => steady
  gone := fun _ noTask => absurd (show call.task = false from noTask) (by simp [task])

theorem Sound.goesOn (sound : Sound call) (task : call.task = true) (early : call.body.early = true)
    (none : .done ∉ call.log → .done ∉ log)
    (calls : ∀ progress, body = .completing progress → ∃ method, progress = .entered method) :
    Sound { call with body, log } := by
  have pending := sound.early task early
  have steady : Steady call.completed log := by
    refine .inl ⟨pending, none ?_⟩
    have before := sound.steady
      (fun progress isFailing => absurd (sound.failing progress isFailing).1 (by simp [task]))
      fun progress completing => absurd early (by simp [completing, Body.early])
    exact (before.resolve_right fun done => absurd done.1 (by simp [pending])).2
  refine sound.setBody task (fun _ => pending) (fun progress completing => ?_) fun _ => steady
  obtain ⟨method, rfl⟩ := calls progress completing
  exact steady

theorem done_not_mem_append {effect : Effect} (other : effect ≠ .done) (none : .done ∉ log) :
    .done ∉ log ++ [effect] := by
  rw [mem_append, mem_singleton, not_or]
  exact ⟨none, fun same => other same.symm⟩

theorem Sound.check (sound : Sound call) (task : call.task = true) (entered : call.body = .entered)
    (cancelled : Bool) : Sound (call.check cancelled) := by
  have early : call.body.early = true := by rw [entered]; rfl
  have checkCancelled : Sound
      (if call.request.controller && cancelled then
        { call with body := .completing (.entered (.fail 499 "REQUEST_CANCELLED" false)) }
      else { call with body := .invoking }) := by
    split
    · exact sound.goesOn task early id fun _ same => by cases same; exact ⟨_, rfl⟩
    · exact sound.goesOn task early id nofun
  unfold Call.check
  dsimp only
  split
  · split
    · exact sound.goesOn task early (done_not_mem_append nofun)
        nofun
    · split
      · exact sound.goesOn task early (done_not_mem_append nofun)
          fun _ same => by cases same; exact ⟨_, rfl⟩
      · exact checkCancelled
  · exact checkCancelled

theorem Sound.bodyStep (sound : Sound call) (task : call.task = true)
    (took : call.bodyStep event = some next) : Sound next := by
  cases event with rw [bodyStep] at took
  | raise =>
    split at took <;> rename_i body <;> cases took
    · exact sound.goesOn task (by rw [body]; rfl) id nofun
    · exact sound.goesOn task (by rw [body]; rfl) id nofun
    · exact sound.goesOn task (by rw [body]; rfl) id fun _ same => by cases same; exact ⟨_, rfl⟩
  | proceed cancelled throws =>
    split at took
    · rename_i entered
      cases took
      exact sound.check task entered cancelled
    · rename_i allow
      cases took
      exact sound.goesOn task (by rw [allow]; rfl)
        (done_not_mem_append nofun)
        fun _ same => by cases same; exact ⟨_, rfl⟩
    · rename_i invoking
      cases took
      exact sound.goesOn task (by rw [invoking]; rfl) id fun _ same => by cases same; exact ⟨_, rfl⟩
    · rename_i progress completing
      -- Inside a method: the body ends when the method does, and is in it until then.
      obtain ⟨⟨middle, later⟩, advanced, rfl⟩ := map_eq_some_iff.mp took
      have after := (sound.completing progress completing).advance advanced
      rw [advance_frame advanced]
      refine sound.setBody task (fun early => ?_) (fun _ same => ?_) fun idle => ?_
      · split at early <;> cases early
      · split at same <;> cases same
        exact after
      · split at idle
        · rename_i ended
          rw [ended] at after
          exact .inr after
        · exact absurd rfl (idle later)
    · cases took

/-! ## Where a task is -/

section Located

variable {τ : Type} {s t : Executor config τ}

/-- The tasks that `Stop` has cancelled and not yet destroyed. -/
def Lifecycle.pending : Lifecycle τ → List τ
  | .stopping _ cancelled => cancelled
  | _ => []

def Worker.task? : Worker τ → Option τ
  | .holding task | .running task | .finished task | .discarding task => some task
  | .absent | .waiting | .exited => none

variable [DecidableEq τ]

def hasTask (task : τ) (worker : Worker τ) : Nat := if worker.task? = some task then 1 else 0

/-- The number of places where `task` is. -/
def located (s : Executor config τ) (task : τ) : Nat :=
  s.tasks.count task + tally (hasTask task) s.workers + s.lifecycle.pending.count task

def Action.submits : Action config τ → Bool
  | .submit _ => true
  | _ => false

def Action.runs : Action config τ → Bool
  | .begin _ | .finish _ => true
  | _ => false

def destroyed (s : Executor config τ) : Action config τ → List τ
  | .popCancelled => s.lifecycle.pending.take 1
  | .discard i => (s.workers i).task?.toList
  | _ => []

theorem located_setWorker (i : Fin config.workerCount) (worker : Worker τ)
    (same : worker.task? = (s.workers i).task?) (task : τ) :
    located (s.setWorker i worker) task = located s task := by
  have weight : hasTask task worker = hasTask task (s.workers i) := by simp only [hasTask, same]
  simp only [located, setWorker, tally_update_of_eq weight]

/-- **A step moves tasks, and destroys one at most.** -/
theorem located_step {action : Action config τ} (flags : Flags s) (step : Step s action t)
    (noSubmit : action.submits = false) (task : τ) :
    located t task + (destroyed s action).count task = located s task := by
  cases step with
  | startReturns | stopReturns | stopUnstarted => rfl
  | startBegins free | stopDrains free => simp only [located, free]; rfl
  | @spawned created spawning inRange =>
    have moved := located_setWorker ⟨created, inRange⟩ .waiting
      (by rw [flags.absent spawning inRange]; rfl) task
    simp only [located, setWorker, spawning] at moved ⊢
    exact moved
  | spawnFails spawning | startFinishes spawning => simp only [located, spawning]; rfl
  | catches caught => simp only [located, caught]; rfl
  | abandons unwinding => simp only [located, unwinding]; rfl
  | rejects | accepts => cases noSubmit
  | stopCancels free =>
    simp only [located, free, Lifecycle.pending, destroyed, count_nil]
    omega
  | @pops policy popped rest stopping =>
    simp only [located, stopping, Lifecycle.pending, destroyed, take_succ_cons,
      take_zero, count_cons, count_nil]
    omega
  | stopFinishes stopping => simp only [located, stopping]; rfl
  | @exits i waiting => exact located_setWorker i .exited (by rw [waiting]; rfl) task
  | @takes i first rest waiting front =>
    have moved := tally_update (hasTask task) s.workers i (.holding first)
    simp only [waiting, hasTask, Worker.task?, Option.some.injEq, reduceCtorEq, if_false] at moved
    simp only [located, setWorker, front, destroyed, count_cons, count_nil, beq_iff_eq]
    omega
  | @begins i held holding => exact located_setWorker i (.running held) (by rw [holding]; rfl) task
  | @finishes i held running =>
    exact located_setWorker i (.finished held) (by rw [running]; rfl) task
  | @completes i held finished =>
    exact located_setWorker i (.discarding held) (by rw [finished]; rfl) task
  | @discards i dropped discarding =>
    have moved := tally_update (hasTask task) s.workers i .waiting
    simp only [discarding, hasTask, Worker.task?, Option.some.injEq, reduceCtorEq,
      if_false] at moved
    simp only [located, setWorker, destroyed, discarding, Worker.task?,
      toList_some, count_cons, count_nil, beq_iff_eq]
    omega

theorem located_submit (submitted task : τ) :
    located (s.submit submitted).1 task = located s task +
      if (s.submit submitted).2 = .accepted ∧ submitted = task then 1 else 0 := by
  unfold submit
  split
  · rfl
  split
  · rfl
  · simp only [located, count_append, count_singleton, beq_iff_eq, true_and]
    omega

theorem hasTask_le_located (task : τ) (i : Fin config.workerCount) :
    hasTask task (s.workers i) ≤ located s task := by
  have := le_tally (hasTask task) s.workers i
  unfold located
  omega

variable {task : τ}

theorem not_elsewhere {i : Fin config.workerCount}
    (here : (s.workers i).task? = some task) (once : located s task ≤ 1) :
    task ∉ s.tasks ∧ task ∉ s.lifecycle.pending ∧
      ∀ j, j ≠ i → (s.workers j).task? ≠ some task := by
  have one : hasTask task (s.workers i) = 1 := if_pos here
  have all := le_tally (hasTask task) s.workers i
  unfold located at once
  refine ⟨?_, ?_, fun j other there => ?_⟩
  · exact List.count_eq_zero.mp (by omega)
  · exact List.count_eq_zero.mp (by omega)
  · have two := add_le_tally (hasTask task) s.workers other
    have : hasTask task (s.workers j) = 1 := if_pos there
    omega

theorem nowhere (none : located s task = 0) :
    task ∉ s.tasks ∧ task ∉ s.lifecycle.pending ∧ ∀ i, (s.workers i).task? ≠ some task := by
  refine ⟨?_, ?_, fun i there => ?_⟩
  · exact List.count_eq_zero.mp (by unfold located at none; omega)
  · exact List.count_eq_zero.mp (by unfold located at none; omega)
  · have one : hasTask task (s.workers i) = 1 := if_pos there
    have atMost := hasTask_le_located (s := s) task i
    omega

end Located

/-! ## All calls -/

def AtWork (calls : CallId → Call) : Worker CallId → Prop
  | .holding id => (calls id).body = .waiting
  | .running id => (calls id).body ≠ .waiting
  | .finished id | .discarding id => (calls id).body = .ended
  | .absent | .waiting | .exited => True

structure Arranged (calls : CallId → Call) (executor : Executor config CallId) : Prop where
  queued : ∀ id ∈ executor.tasks, (calls id).body = .waiting
  pending : ∀ id ∈ executor.lifecycle.pending, (calls id).body = .waiting
  workers : ∀ i, AtWork calls (executor.workers i)

theorem Arranged.setWorker (arranged : Arranged calls executor) (i : Fin config.workerCount)
    (worker : Worker CallId)
    (atWork : AtWork calls worker) : Arranged calls (executor.setWorker i worker) := by
  refine { arranged with workers := fun j => ?_ }
  change AtWork calls (update executor.workers i worker j)
  rcases eq_or_ne j i with rfl | other
  · rwa [update_self]
  · rw [update_of_ne other]
    exact arranged.workers j

theorem Arranged.step {s t : Executor config CallId} {action : Action config CallId}
    (arranged : Arranged calls s) (step : Step s action t)
    (noSubmit : action.submits = false) (noRun : action.runs = false) : Arranged calls t := by
  have none {id : CallId} (never : id ∈ ([] : List CallId)) : (calls id).body = .waiting := by
    cases never
  cases step with
  | startReturns => exact arranged
  | startBegins | spawnFails | startFinishes | catches | abandons | stopDrains | stopFinishes =>
    exact { arranged with pending := fun _ => none }
  | @spawned created _ inRange =>
    have moved := arranged.setWorker ⟨created, inRange⟩ .waiting trivial
    exact { moved with pending := fun _ => none }
  | rejects | accepts => cases noSubmit
  | stopReturns | stopUnstarted => exact { arranged with }
  | stopCancels => exact { arranged with queued := fun _ => none, pending := arranged.queued }
  | pops stopping =>
    refine { arranged with pending := fun id member => arranged.pending id ?_ }
    rw [stopping]
    exact mem_cons_of_mem _ member
  | exits | discards => exact arranged.setWorker _ _ trivial
  | @takes i id rest _ first =>
    have waiting : (calls id).body = .waiting := arranged.queued id (by simp [first])
    have moved := arranged.setWorker i (.holding id) waiting
    exact { moved with
      queued := fun id member => arranged.queued id (by simp [first, member]) }
  | begins | finishes => cases noRun
  | @completes i id finished =>
    have ended := arranged.workers i
    rw [finished] at ended
    have moved := arranged.setWorker i (.discarding id) ended
    exact { moved with }

def Body.Follows (before after : Body) : Prop :=
  after = before ∨ before ≠ .waiting ∧ before ≠ .ended ∧ after ≠ .waiting

section

variable (arranged : Arranged calls executor)
include arranged

theorem Arranged.setCall (follows : (calls id).body.Follows call.body) :
    Arranged (update calls id call) executor := by
  have waiting {other : CallId} (before : (calls other).body = .waiting) :
      (update calls id call other).body = .waiting := by
    rcases eq_or_ne other id with rfl | different
    · rw [update_self]
      exact (follows.resolve_right fun goesOn => goesOn.1 before).trans before
    · rwa [update_of_ne different]
  have ended {other : CallId} (before : (calls other).body = .ended) :
      (update calls id call other).body = .ended := by
    rcases eq_or_ne other id with rfl | different
    · rw [update_self]
      exact (follows.resolve_right fun goesOn => goesOn.2.1 before).trans before
    · rwa [update_of_ne different]
  refine ⟨fun other member => waiting (arranged.queued other member),
    fun other member => waiting (arranged.pending other member), fun i => ?_⟩
  have before := arranged.workers i
  cases place : executor.workers i with
  | absent | waiting | exited => trivial
  | holding => rw [place] at before; exact waiting before
  | finished | discarding => rw [place] at before; exact ended before
  | running other =>
    rw [place] at before
    change (update calls id call other).body ≠ .waiting
    rcases eq_or_ne other id with rfl | different
    · rw [update_self]
      rcases follows with same | goesOn
      · rw [same]
        exact before
      · exact goesOn.2.2
    · rwa [update_of_ne different]

theorem Arranged.away (notQueued : id ∉ executor.tasks)
    (notPending : id ∉ executor.lifecycle.pending)
    (notAtWork : ∀ i, (executor.workers i).task? ≠ some id) (call : Call) :
    Arranged (update calls id call) executor := by
  refine ⟨fun other member => ?_, fun other member => ?_, fun i => ?_⟩
  · rw [update_of_ne (ne_of_mem_of_not_mem member notQueued)]
    exact arranged.queued other member
  · rw [update_of_ne (ne_of_mem_of_not_mem member notPending)]
    exact arranged.pending other member
  · have before := arranged.workers i
    have away := notAtWork i
    cases place : executor.workers i with
    | absent | waiting | exited => trivial
    | holding other | running other | finished other | discarding other =>
      rw [place] at before away
      have different : other ≠ id := fun same => away (congrArg some same)
      simp only [AtWork, update_of_ne different] at before ⊢
      exact before

theorem Arranged.submit (waiting : (calls id).body = .waiting) :
    Arranged calls (executor.submit id).1 := by
  unfold Executor.submit
  split
  · exact { arranged with }
  split
  · exact { arranged with }
  refine { arranged with queued := fun other member => ?_ }
  rcases List.mem_append.mp member with queued | new
  · exact arranged.queued other queued
  · rw [List.mem_singleton.mp new]
    exact waiting

theorem Arranged.begin {i : Fin config.workerCount} (holding : executor.workers i = .holding id)
    (once : located executor id ≤ 1) :
    Arranged (update calls id { calls id with body := .entered })
      (executor.setWorker i (.running id)) := by
  obtain ⟨notQueued, notPending, notElsewhere⟩ :=
    not_elsewhere (i := i) (by rw [holding]; rfl) once
  -- The call changes while its worker is thought to have no task: it is then nowhere.
  have without := (arranged.setWorker i .waiting trivial).away notQueued notPending (fun j => ?_)
    { calls id with body := .entered }
  · have running := without.setWorker i (.running id) (by simp [AtWork])
    simpa [Executor.setWorker] using running
  · change (update executor.workers i .waiting j).task? ≠ some id
    rcases eq_or_ne j i with rfl | other
    · rw [update_self]
      exact nofun
    · rw [update_of_ne other]
      exact notElsewhere j other

end

/-! ## The steps -/

theorem Call.fails_frame (took : call.fails throws = some next) :
    next.task = call.task ∧ next.body = call.body := by
  unfold fails at took
  split at took <;> [skip; cases took]
  obtain ⟨⟨middle, later⟩, advanced, rfl⟩ := map_eq_some_iff.mp took
  rw [advance_frame advanced]
  exact ⟨rfl, rfl⟩

theorem Call.returns_frame (took : call.returns throws = some next) :
    next.task = call.task ∧ next.body = call.body := by
  unfold returns at took
  split at took <;> cases took <;> split <;>
    first
    | exact ⟨rfl, rfl⟩
    | exact ⟨(destroy_frame _ _).2.1, (destroy_frame _ _).2.2⟩

theorem Call.check_frame (call : Call) (cancelled : Bool) :
    (call.check cancelled).task = call.task ∧ (call.check cancelled).body ≠ .waiting := by
  unfold check
  dsimp only
  repeat' split
  all_goals exact ⟨rfl, nofun⟩

theorem Call.bodyStep_frame (took : call.bodyStep event = some next) :
    next.task = call.task ∧ call.body ≠ .waiting ∧ call.body ≠ .ended ∧ next.body ≠ .waiting := by
  cases event with rw [bodyStep] at took
  | raise =>
    split at took <;> rename_i body <;> cases took <;> rw [body] <;>
      exact ⟨rfl, nofun, nofun, nofun⟩
  | proceed cancelled throws =>
    split at took
    case h_1 entered =>
      cases took
      rw [entered]
      obtain ⟨sameTask, notWaiting⟩ := call.check_frame cancelled
      exact ⟨sameTask, nofun, nofun, notWaiting⟩
    case h_4 progress completing =>
      obtain ⟨⟨middle, later⟩, advanced, rfl⟩ := map_eq_some_iff.mp took
      rw [advance_frame advanced, completing]
      refine ⟨rfl, nofun, nofun, ?_⟩
      dsimp only
      split <;> exact nofun
    all_goals
      rename_i body
      cases took <;> rw [body] <;>
      exact ⟨rfl, nofun, nofun, nofun⟩

structure Placed (s : Dispatcher config) : Prop where
  flags : s.destroying = false → Flags s.executor
  located : ∀ id, located s.executor id = if (s.calls id).task then 1 else 0
  arranged : Arranged s.calls s.executor
  sound : ∀ id, Sound (s.calls id)

namespace Placed

variable {s t : Dispatcher config} {id : CallId} {executor : Executor config CallId}
    {action : Action config CallId}

theorem sound_update {calls : CallId → Call} (sound : ∀ id, Sound (calls id)) {call : Call}
    (soundCall : Sound call) (other : CallId) :
    Sound (update calls id call other) := by
  rcases eq_or_ne other id with rfl | different
  · rwa [update_self]
  · rw [update_of_ne different]
    exact sound other

theorem task_of_hasTask (placed : Placed s) {i : Fin config.workerCount}
    (here : (s.executor.workers i).task? = some id) : (s.calls id).task = true := by
  by_contra gone
  have one : hasTask id (s.executor.workers i) = 1 := if_pos here
  have atMost := hasTask_le_located (s := s.executor) id i
  rw [placed.located id, if_neg gone] at atMost
  omega

theorem setCall (placed : Placed s) {call : Call} (soundCall : Sound call)
    (sameTask : call.task = (s.calls id).task)
    (follows : (s.calls id).body.Follows call.body) : Placed (s.setCall id call) := by
  refine ⟨placed.flags, fun other => ?_, placed.arranged.setCall follows,
    sound_update placed.sound soundCall⟩
  change Runtime.located s.executor other = if (update s.calls id call other).task then 1 else 0
  rw [placed.located other]
  rcases eq_or_ne other id with rfl | different
  · rw [update_self, sameTask]
  · rw [update_of_ne different]

theorem setExecutor (placed : Placed s) (flags : s.destroying = false → Flags executor)
    (same : ∀ id, Runtime.located executor id = Runtime.located s.executor id)
    (arranged : Arranged s.calls executor) : Placed { s with executor } :=
  ⟨flags, fun id => (same id).trans (placed.located id), arranged, placed.sound⟩

theorem dropTask_frame (call : Call) (throws : Throws) :
    (call.dropTask throws).task = false ∧ (call.dropTask throws).body = call.body := by
  unfold dropTask
  split
  · exact ⟨(destroy_frame _ _).2.1, (destroy_frame _ _).2.2⟩
  · exact ⟨rfl, rfl⟩

section

variable (placed : Placed s)
include placed

theorem drop (throws : Throws) (flags : s.destroying = false → Flags executor)
    (located : ∀ other, Runtime.located executor other + [id].count other =
      Runtime.located s.executor other)
    (arranged : Arranged s.calls executor)
    (idle : ∀ progress, (s.calls id).body ≠ .completing progress) :
    Placed ({ s with executor }.setCall id ((s.calls id).dropTask throws)) := by
  obtain ⟨noTask, sameBody⟩ := dropTask_frame (s.calls id) throws
  have task : (s.calls id).task = true := by
    by_contra gone
    have before := located id
    rw [placed.located id, if_neg gone, count_singleton_self] at before
    omega
  refine ⟨flags, fun other => ?_, arranged.setCall (.inl sameBody),
    sound_update placed.sound ((placed.sound id).dropTask throws task idle)⟩
  change Runtime.located executor other =
    if (update s.calls id ((s.calls id).dropTask throws) other).task then 1 else 0
  have before := located other
  rw [placed.located other] at before
  rcases eq_or_ne other id with rfl | different
  · rw [task, count_singleton_self] at before
    rw [update_self, noTask]
    simp only [if_true, Bool.false_eq_true, if_false] at before ⊢
    omega
  · rw [count_singleton, if_neg (by simpa using different.symm), Nat.add_zero] at before
    rw [update_of_ne different, before]

section

variable (running : s.destroying = false)
include running

theorem dispatch (absent : (s.calls id).caller = .absent) (request : Request) :
    Placed (s.dispatch id request) := by
  have none : Runtime.located s.executor id = 0 := by
    rw [placed.located id, (placed.sound id).absent absent]
    rfl
  obtain ⟨notQueued, notPending, notAtWork⟩ := nowhere none
  have place {call : Call} (soundCall : Sound call) (waiting : call.body = .waiting)
      (task : call.task = decide ((s.executor.submit id).2 = .accepted)) :
      Placed ({ s with executor := (s.executor.submit id).1 }.setCall id call) := by
    refine ⟨fun _ => (placed.flags running).step (step_submit id), fun other => ?_, ?_,
      sound_update placed.sound soundCall⟩
    · change Runtime.located (s.executor.submit id).1 other =
        if (update s.calls id call other).task then 1 else 0
      rw [located_submit]
      rcases eq_or_ne other id with rfl | different
      · simp [none, task]
      have notThis : ¬ ((s.executor.submit id).2 = .accepted ∧ id = other) :=
        fun same => different same.2.symm
      rw [update_of_ne different, if_neg notThis, Nat.add_zero, placed.located other]
    · refine (placed.arranged.away notQueued notPending notAtWork call).submit ?_
      rwa [update_self]
  unfold Dispatcher.dispatch
  dsimp only
  split <;> rename_i result
  · exact place (.new nofun
      ⟨nofun, nofun⟩) rfl (by simp [result])
  · exact place (.new (fun _ same => by cases same; exact ⟨rfl, _, rfl⟩)
      ⟨nofun, nofun⟩) rfl (by simp [result])
  · exact place (.new (fun _ same => by cases same; exact ⟨rfl, _, rfl⟩)
      ⟨nofun, nofun⟩) rfl (by simp [result])

theorem other (took : Runtime.step s.executor action = some executor)
    (noSubmit : action.submits = false)
    (noRun : action.runs = false) (destroysNone : destroyed s.executor action = []) :
    Placed { s with executor } := by
  have flags := placed.flags running
  have step := step_cases took
  refine placed.setExecutor (fun _ => flags.step step) (fun id => ?_)
    (placed.arranged.step step noSubmit noRun)
  have moved := located_step flags step noSubmit id
  rwa [destroysNone] at moved

theorem destroys (throws : Throws) (step : Step s.executor action executor)
    (noSubmit : action.submits = false)
    (noRun : action.runs = false) (destroysOne : destroyed s.executor action = [id])
    (idle : ∀ progress, (s.calls id).body ≠ .completing progress) :
    Placed ({ s with executor }.setCall id ((s.calls id).dropTask throws)) := by
  have flags := placed.flags running
  refine placed.drop throws (fun _ => flags.step step) (fun other => ?_)
    (placed.arranged.step step noSubmit noRun) idle
  have moved := located_step flags step noSubmit other
  rwa [destroysOne] at moved

theorem executorStep {throws : Throws} (took : s.executorStep throws action = some t) :
    Placed t := by
  have flags := placed.flags running
  cases action with
  | submit => cases took
  | begin i =>
    rw [Dispatcher.executorStep] at took
    split at took <;> [skip; cases took]
    rename_i id holding
    rw [begin, holding, map_some] at took
    cases took
    have once : Runtime.located s.executor id ≤ 1 := by
      rw [placed.located id]
      split <;> decide
    have waiting := placed.arranged.workers i
    rw [holding] at waiting
    -- The task is in one place, so no other worker is inside its body.
    have task := placed.task_of_hasTask (i := i) (by rw [holding]; rfl)
    have enters : Sound { s.calls id with body := .entered } :=
      (placed.sound id).goesOn task (by rw [show (s.calls id).body = .waiting from waiting]; rfl)
        (fun none => none) fun _ never => by cases never
    have arranged := placed.arranged.begin holding once
    refine ⟨fun _ => flags.step (.begins holding), fun other => ?_, { arranged with },
      sound_update placed.sound enters⟩
    have moved := located_step flags (.begins holding) rfl other
    refine (moved.trans (placed.located other)).trans ?_
    change _ = if (update s.calls id _ other).task then 1 else 0
    rcases eq_or_ne other id with rfl | different
    · rw [update_self]
    · rw [update_of_ne different]
  | finish i =>
    rw [Dispatcher.executorStep] at took
    split at took <;> [skip; cases took]
    rename_i id isRunning
    split at took <;> [skip; cases took]
    rename_i ended
    rw [finish, isRunning, map_some] at took
    cases took
    have moved := located_step flags (.finishes isRunning) rfl
    exact placed.setExecutor (fun _ => flags.step (.finishes isRunning)) moved
      (placed.arranged.setWorker i (.finished id) ended)
  | popCancelled =>
    obtain ⟨⟨id, executor⟩, popped, rfl⟩ := map_eq_some_iff.mp took
    rw [popCancelled] at popped
    split at popped <;> cases popped
    rename_i policy rest stopping
    have waiting := placed.arranged.pending id (by rw [stopping]; exact mem_cons_self)
    refine placed.destroys running throws (.pops stopping) rfl rfl ?_ fun progress => ?_
    · simp [destroyed, stopping, Lifecycle.pending]
    · rw [waiting]
      exact fun never => by cases never
  | discard i =>
    obtain ⟨⟨id, executor⟩, dropped, rfl⟩ := map_eq_some_iff.mp took
    rw [Executor.discard] at dropped
    split at dropped <;> cases dropped
    rename_i discarding
    have ended := placed.arranged.workers i
    rw [discarding] at ended
    refine placed.destroys running throws (.discards discarding) rfl rfl ?_ fun progress => ?_
    · simp [destroyed, discarding, Worker.task?]
    · rw [show (s.calls id).body = .ended from ended]
      exact fun never => by cases never
  -- The others move tasks between the queue, the workers and the cancelled ones.
  | start | spawn | startFinish | catchSection | abandon | stop | stopFinish | take | complete =>
    obtain ⟨executor, taken, rfl⟩ := map_eq_some_iff.mp took
    exact placed.other running taken rfl rfl rfl

end

theorem step {action : DispatchAction config} (took : dispatchStep s action = some t) :
    Placed t := by
  cases action with rw [dispatchStep] at took
  | dispatch id request =>
    split at took <;> [cases took; skip]
    rename_i running
    split at took <;> cases took
    rename_i absent
    exact placed.dispatch (by simpa using running) absent request
  | fails id =>
    obtain ⟨call, goesOn, rfl⟩ := map_eq_some_iff.mp took
    obtain ⟨sameTask, sameBody⟩ := fails_frame goesOn
    exact placed.setCall ((placed.sound id).fails goesOn) sameTask (.inl sameBody)
  | returns id =>
    obtain ⟨call, goesOn, rfl⟩ := map_eq_some_iff.mp took
    obtain ⟨sameTask, sameBody⟩ := returns_frame goesOn
    exact placed.setCall ((placed.sound id).returns goesOn) sameTask (.inl sameBody)
  | body i event =>
    split at took <;> [skip; cases took]
    rename_i id isRunning
    obtain ⟨call, goesOn, rfl⟩ := map_eq_some_iff.mp took
    obtain ⟨sameTask, follows⟩ := bodyStep_frame goesOn
    have task := placed.task_of_hasTask (i := i) (by rw [isRunning]; rfl)
    exact placed.setCall ((placed.sound id).bodyStep task goesOn) sameTask (.inr follows)
  | executor action throws =>
    split at took <;> [cases took; skip]
    rename_i running
    exact placed.executorStep (by simpa using running) took
  | destroy =>
    obtain ⟨_, taken⟩ := ite_none_right_eq_some.mp took
    cases taken
    exact { placed with flags := nofun }
  | dropQueued throws =>
    split at took <;> cases took
    rename_i id rest destroying first
    -- `~BusinessExecutor` destroys the queue: a task in it has not run.
    have waiting : (s.calls id).body = .waiting := placed.arranged.queued id (by simp [first])
    refine placed.drop throws (fun never => ?_) (fun other => ?_) ?_ fun progress => ?_
    · rw [destroying] at never
      cases never
    · simp only [Runtime.located, first, count_cons, count_nil]
      omega
    · exact { placed.arranged with
        queued := fun other member => placed.arranged.queued other (by simp [first, member]) }
    · rw [waiting]
      exact fun never => by cases never

end

end Placed

theorem placed_of_reachable {s : Dispatcher config}
    (reachable : (dispatchSystem config).Reachable s) : Placed s := by
  refine reachable.induct ?_ fun _ took placed => placed.step took
  have start : (executorSystem config CallId).Reachable {} := .refl _
  refine ⟨fun _ => flags_of_reachable start, fun id => ?_,
    ⟨nofun, nofun, fun _ => trivial⟩,
    fun id => ?_⟩
  · change [].count id + tally (hasTask id) _ + [].count id = 0
    rw [count_nil, Nat.zero_add, Nat.add_zero, tally_eq_zero_iff]
    exact fun _ => rfl
  · exact {
      absent := fun _ => rfl
      failing := nofun
      early := fun _ _ => rfl
      idle := nofun
      completing := nofun
      steady := fun _ _ => .inl ⟨rfl, not_mem_nil⟩
      gone := nofun }

theorem Holds.done_not_mem_or_answered (holds : Holds completed log progress) :
    .done ∉ log ∨ Answered log := by
  cases progress with
  | entered => exact holds.imp And.right And.right
  | writing | running => exact .inl holds.2
  | ended => exact .inr holds.2

theorem Sound.done_not_mem_or_answered (sound : Sound call) :
    .done ∉ call.log ∨ Answered call.log := by
  by_cases isFailing : ∃ progress, call.caller = .failing progress
  · obtain ⟨progress, isFailing⟩ := isFailing
    exact (sound.failing progress isFailing).2.2.done_not_mem_or_answered
  by_cases isCompleting : ∃ progress, call.body = .completing progress
  · obtain ⟨progress, isCompleting⟩ := isCompleting
    exact (sound.completing progress isCompleting).done_not_mem_or_answered
  · have steady := sound.steady (not_exists.mp isFailing) (not_exists.mp isCompleting)
    exact steady.imp And.right And.right

theorem Answered.done_last {before after : List Effect} (answered : Answered log)
    (split : log = before ++ .done :: after) : after = [] ∧ .done ∉ before := by
  obtain ⟨written, rfl, none⟩ := answered
  rcases eq_nil_or_concat after with rfl | ⟨initial, last, rfl⟩
  · refine ⟨rfl, ?_⟩
    rwa [← (append_inj' split rfl).1]
  rw [concat_eq_append, ← cons_append, ← append_assoc] at split
  have same : written = before ++ .done :: initial := (append_inj' split rfl).1
  exact absurd (by simp [same]) none

/-- **A call is answered once**: `done` is run at most once and nothing is written afterwards; and
it was run once the frame and the task are gone. -/
theorem dispatch_answers_once {s : Dispatcher config}
    (reachable : (dispatchSystem config).Reachable s) (id : CallId) :
    (∀ before after, (s.calls id).log = before ++ .done :: after →
      after = [] ∧ .done ∉ before) ∧
    ((s.calls id).caller = .returned → (s.calls id).task = false →
      (s.calls id).log.count .done = 1) := by
  have sound := (placed_of_reachable reachable).sound id
  refine ⟨fun before after split => ?_, fun returned noTask => ?_⟩
  · rcases sound.done_not_mem_or_answered with none | answered
    · exact absurd (by simp [split]) none
    · exact answered.done_last split
  obtain ⟨_, before, log, none⟩ := sound.gone returned noTask
  rw [log, count_append, List.count_eq_zero.mpr none, count_singleton_self]

/-- A call is accepted; the frame returns; `Stop` cancels the task, whose destruction answers
the call. -/
theorem dispatch_answers_once_cancelled : ∃ s : Dispatcher smallConfig,
    (s.calls 0).caller = .returned ∧ (s.calls 0).task = false ∧
      .setMessage "BUSINESS_EXECUTOR_STOPPED" ∈ (s.calls 0).log ∧
      (s.calls 0).log.count .done = 1 := by
  obtain ⟨s, reachable, check⟩ := (dispatchSystem smallConfig).exists_of_run
    [.executor .start {}, .executor (.spawn true) {}, .executor .startFinish {}, .dispatch 0 {},
      .returns 0 {}, .executor (.stop .cancelPending) {}, .executor .popCancelled {}]
    (fun s => decide ((s.calls 0).caller = .returned) && !(s.calls 0).task &&
      decide (.setMessage "BUSINESS_EXECUTOR_STOPPED" ∈ (s.calls 0).log)) (by decide)
  simp only [Bool.and_eq_true, decide_eq_true_eq, Bool.not_eq_true'] at check
  obtain ⟨⟨returned, noTask⟩, written⟩ := check
  exact ⟨s, returned, noTask, written, (dispatch_answers_once reachable 0).2 returned noTask⟩

end OnlineJudge.Runtime
