import OnlineJudge.Library.Tally
import OnlineJudge.Library.TransitionSystem

/-!
# The business executor

`BusinessExecutor` (`business_executor.cpp`) is a bounded queue of tasks with a fixed number of
workers.  A step is a section under `mutex_`, or what a thread does between two.
-/

namespace OnlineJudge.Runtime

inductive SubmitResult
  | accepted
  | queueFull
  | stopped
  deriving DecidableEq

inductive StopPolicy
  | drain
  | cancelPending
  deriving DecidableEq

/-- `struct Config`; the constructor of `BusinessExecutor` throws for a configuration without
workers or without a queue. -/
structure Config where
  workerCount : Nat := 4
  queueCapacity : Nat := 256
  stopPolicy : StopPolicy := .drain
  hasWorker : 0 < workerCount := by decide
  hasQueue : 0 < queueCapacity := by decide

inductive Worker (τ : Type)
  | absent
  /-- At the top of `WorkerLoop`. -/
  | waiting
  | holding (task : τ)
  /-- Inside `queued.task()`. -/
  | running (task : τ)
  | finished (task : τ)
  | discarding (task : τ)
  /-- It has left `WorkerLoop`. -/
  | exited
  deriving DecidableEq

/-- The thread that holds `lifecycle_mutex_`. -/
inductive Lifecycle (τ : Type)
  | free
  /-- `Start` creates the workers. -/
  | spawning (created : Nat)
  | caught
  /-- The failed `Start` joins the workers it has. -/
  | unwinding
  /-- `Stop` destroys the tasks that it has cancelled, and joins the workers. -/
  | stopping (policy : StopPolicy) (cancelled : List τ)
  deriving DecidableEq

/-- The last six fields record the tasks that were accepted, taken, begun and cancelled, in this
order, and whether a draining `Stop` has returned. -/
structure Executor (config : Config) (τ : Type) where
  started : Bool := false
  stopping : Bool := false
  stopped : Bool := false
  activePolicy : StopPolicy := .drain
  tasks : List τ := []
  workers : Fin config.workerCount → Worker τ := fun _ => .absent
  lifecycle : Lifecycle τ := .free
  acceptedCount : Nat := 0
  rejectedQueueFullCount : Nat := 0
  rejectedStoppedCount : Nat := 0
  completedCount : Nat := 0
  cancelledPendingCount : Nat := 0
  accepted : List τ := []
  taken : List τ := []
  begun : List τ := []
  cancelled : List τ := []
  drained : Bool := false

namespace Executor

variable {config : Config} {τ : Type} (s : Executor config τ)

/-- The first section of `Start`, with the value that it returns where it does not go on. -/
def startSection : Executor config τ × Option Bool :=
  if s.started && !s.stopping then (s, some true)
  else if s.stopped then (s, some false)
  else
    ({ s with
        started := true
        stopping := false
        activePolicy := config.stopPolicy
        lifecycle := .spawning 0 }, none)

def setWorker (i : Fin config.workerCount) (worker : Worker τ) : Executor config τ :=
  { s with workers := Function.update s.workers i worker }

/-- `workers_.emplace_back`, which creates a thread or throws. -/
def spawn (succeeds : Bool) : Option (Executor config τ) :=
  match s.lifecycle with
  | .spawning created =>
    if inRange : created < config.workerCount then
      if succeeds then
        some { s.setWorker ⟨created, inRange⟩ .waiting with lifecycle := .spawning (created + 1) }
      else some { s with lifecycle := .caught }
    else none
  | _ => none

def startFinish : Option (Executor config τ) :=
  match s.lifecycle with
  | .spawning created =>
    if created = config.workerCount then some { s with lifecycle := .free } else none
  | _ => none

/-- The section at the beginning of the `catch` block. -/
def catchSection : Option (Executor config τ) :=
  match s.lifecycle with
  | .caught =>
    some { s with stopping := true, activePolicy := .cancelPending, lifecycle := .unwinding }
  | _ => none

def Idle : Worker τ → Bool
  | .absent | .exited => true
  | _ => false

/-- The section at the end of the `catch` block, once the workers are joined. -/
def abandon : Option (Executor config τ) :=
  match s.lifecycle with
  | .unwinding =>
    if ∀ i, Idle (s.workers i) = true then
      some { s with started := false, stopped := true, lifecycle := .free }
    else none
  | _ => none

def submit (task : τ) : Executor config τ × SubmitResult :=
  if !s.started || s.stopping || s.stopped then
    ({ s with rejectedStoppedCount := s.rejectedStoppedCount + 1 }, .stopped)
  else if s.tasks.length ≥ config.queueCapacity then
    ({ s with rejectedQueueFullCount := s.rejectedQueueFullCount + 1 }, .queueFull)
  else
    ({ s with
        tasks := s.tasks ++ [task]
        acceptedCount := s.acceptedCount + 1
        accepted := s.accepted ++ [task] }, .accepted)

def stopReturns (policy : StopPolicy) : Executor config τ :=
  { s with drained := s.drained || policy = .drain }

def stopSection (policy : StopPolicy) : Executor config τ :=
  if s.stopped then s.stopReturns policy
  else if !s.started then { s with stopped := true }.stopReturns policy
  else
    let s := { s with stopping := true, activePolicy := policy }
    if policy = .cancelPending then
      { s with
        cancelledPendingCount := s.cancelledPendingCount + s.tasks.length
        tasks := []
        cancelled := s.cancelled ++ s.tasks
        lifecycle := .stopping policy s.tasks }
    else { s with lifecycle := .stopping policy [] }

def popCancelled : Option (τ × Executor config τ) :=
  match s.lifecycle with
  | .stopping policy (task :: rest) => some (task, { s with lifecycle := .stopping policy rest })
  | _ => none

def stopFinish : Option (Executor config τ) :=
  match s.lifecycle with
  | .stopping policy [] =>
    if ∀ i, Idle (s.workers i) = true then
      some ({ s with started := false, stopped := true, lifecycle := .free }.stopReturns policy)
    else none
  | _ => none

variable (i : Fin config.workerCount)

/-- The section at the top of `WorkerLoop`; the worker waits while the executor runs and has no
task. -/
def takeSection : Option (Executor config τ) :=
  match s.workers i with
  | .waiting =>
    if s.stopping && (s.activePolicy = .cancelPending || s.tasks.isEmpty) then
      some (s.setWorker i .exited)
    else
      match s.tasks with
      | [] => none
      | task :: rest =>
        some { s.setWorker i (.holding task) with tasks := rest, taken := s.taken ++ [task] }
  | _ => none

/-- `queued.task()` is called. -/
def begin : Option (Executor config τ) :=
  match s.workers i with
  | .holding task => some { s.setWorker i (.running task) with begun := s.begun ++ [task] }
  | _ => none

def finish : Option (Executor config τ) :=
  match s.workers i with
  | .running task => some (s.setWorker i (.finished task))
  | _ => none

def complete : Option (Executor config τ) :=
  match s.workers i with
  | .finished task =>
    some { s.setWorker i (.discarding task) with completedCount := s.completedCount + 1 }
  | _ => none

def discard : Option (τ × Executor config τ) :=
  match s.workers i with
  | .discarding task => some (task, s.setWorker i .waiting)
  | _ => none

end Executor

inductive Action (config : Config) (τ : Type)
  | start
  | spawn (succeeds : Bool)
  | startFinish
  | catchSection
  | abandon
  | submit (task : τ)
  | stop (policy : StopPolicy)
  | popCancelled
  | stopFinish
  | take (i : Fin config.workerCount)
  | begin (i : Fin config.workerCount)
  | finish (i : Fin config.workerCount)
  | complete (i : Fin config.workerCount)
  | discard (i : Fin config.workerCount)

variable {config : Config} {τ : Type}

/-- One step.  `Start` and `Stop` wait for `lifecycle_mutex_`. -/
def step (s : Executor config τ) : Action config τ → Option (Executor config τ)
  | .start => if s.lifecycle matches .free then some s.startSection.1 else none
  | .spawn succeeds => s.spawn succeeds
  | .startFinish => s.startFinish
  | .catchSection => s.catchSection
  | .abandon => s.abandon
  | .submit task => some (s.submit task).1
  | .stop policy => if s.lifecycle matches .free then some (s.stopSection policy) else none
  | .popCancelled => s.popCancelled.map Prod.snd
  | .stopFinish => s.stopFinish
  | .take i => s.takeSection i
  | .begin i => s.begin i
  | .finish i => s.finish i
  | .complete i => s.complete i
  | .discard i => (s.discard i).map Prod.snd

def executorSystem (config : Config) (τ : Type) :
    TransitionSystem (Executor config τ) (Action config τ) where
  initial := {}
  step := step

end OnlineJudge.Runtime
