import OnlineJudge.Library.TransitionSystem
import OnlineJudge.EventLoop.CoTask

/-!
# The judge event loop as a transition system

`JudgeEventLoop` (`event_loop.hpp`), shared by `n` owner workers, `m` I/O workers, the threads that
push tasks, and the thread that calls `Stop`.  A step is one section under a mutex, or one thing
that a thread does between two.  Where an entry is erased under a running coroutine, which is
undefined in the source, the coroutine runs on without its entry.
-/

namespace OnlineJudge.EventLoop

/-- The key of `_pendings`, a name made by `StringUtil::GetUniqueName`. -/
abbrev TaskId := String

/-! ## State -/

inductive PendingState
  | ready
  | running
  | waiting
  deriving DecidableEq

structure PendingEntry (ω : Type) where
  task : CoTask ω
  state : PendingState := .ready
  generation : UInt64 := 0
  deadline : Nat
  ioDeadline : Nat := 0
  ioInFlight : Bool := false
  cancelRequested : Bool := false

structure IoJob (ω : Type) where
  taskId : TaskId
  generation : UInt64
  deadline : Nat
  work : ω

inductive OwnerPc (ω : Type)
  | idle
  /-- Has set the entry to `Running` and is about to call `task->Resume()`. -/
  | popped (taskId : TaskId)
  /-- Inside `Resume()`, running the coroutine's code. -/
  | resuming (taskId : TaskId) (body : Coroutine ω)
  /-- Still inside `Resume()`, after the coroutine has suspended. -/
  | returning (taskId : TaskId)
  | post (taskId : TaskId) (stopping : Bool)
  | cancelling (taskId : TaskId) (callback : Bool)
  | cancelled (taskId : TaskId) (callback : Bool)
  | completing (taskId : TaskId) (callback : Bool) (result : JudgeResult)
  | completed (taskId : TaskId) (callback : Bool)
  /-- Has left `OwnerWork`. -/
  | exited

inductive IoPc (ω : Type)
  | idle
  | holding (job : IoJob ω)
  /-- Inside `job.work()`. -/
  | executing (job : IoJob ω)
  /-- Has a result and has not called `CompleteIo`. -/
  | finished (job : IoJob ω) (result : DockerTaskResult)
  | exited

inductive StopPhase
  | notCalled
  /-- `_accepting_io.store(false)` is done. -/
  | acceptingCleared
  /-- `_running.exchange(false)` is done. -/
  | runningCleared
  /-- `_io_queue` has been swapped out. -/
  | ioSwapped
  /-- `_io_cv.notify_all()` is done; joining the I/O threads. -/
  | ioNotified
  | ioJoined
  | swept
  /-- `_stop_owners.store(true)` is done. -/
  | ownersStopped
  /-- `_cv.notify_all()` is done; joining the owner threads. -/
  | ownersNotified
  /-- `Stop` has returned. -/
  | returned
  deriving DecidableEq

/-- The position of a phase in the body of `Stop`. -/
def StopPhase.rank : StopPhase → Nat
  | .notCalled => 0
  | .acceptingCleared => 1
  | .runningCleared => 2
  | .ioSwapped => 3
  | .ioNotified => 4
  | .ioJoined => 5
  | .swept => 6
  | .ownersStopped => 7
  | .ownersNotified => 8
  | .returned => 9

/-- The last three fields only record which names have been used, which tasks have been accepted
with a callback, and every call of a callback. -/
structure LoopState (ω : Type) (n m : Nat) where
  pendings : Std.TreeMap TaskId (PendingEntry ω) := ∅
  ready : List TaskId := []
  ioQueue : List (IoJob ω) := []
  running : Bool := true
  acceptingIo : Bool := true
  stopOwners : Bool := false
  now : Nat := 0
  owners : Fin n → OwnerPc ω := fun _ => .idle
  ios : Fin m → IoPc ω := fun _ => .idle
  stop : StopPhase := .notCalled
  used : List TaskId := []
  accepted : List TaskId := []
  invoked : List TaskId := []

variable {ω : Type} {n m : Nat}

namespace LoopState

variable (s : LoopState ω n m)

def setEntry (taskId : TaskId) (entry : PendingEntry ω) : LoopState ω n m :=
  { s with pendings := s.pendings.insert taskId entry }

def eraseEntry (taskId : TaskId) : LoopState ω n m :=
  { s with pendings := s.pendings.erase taskId }

def pushReady (taskId : TaskId) : LoopState ω n m :=
  { s with ready := s.ready ++ [taskId] }

def pushIo (job : IoJob ω) : LoopState ω n m :=
  { s with ioQueue := s.ioQueue ++ [job] }

def setOwner (owner : Fin n) (pc : OwnerPc ω) : LoopState ω n m :=
  { s with owners := Function.update s.owners owner pc }

def setIo (worker : Fin m) (pc : IoPc ω) : LoopState ω n m :=
  { s with ios := Function.update s.ios worker pc }

end LoopState

open LoopState

/-! ## Pushing a task -/

variable (s : LoopState ω n m)

/-- `PushNewTask`. `taskId` is what `GetUniqueName` returns, a name that was never used before;
`body` is `none` for a task without a handle. -/
def pushNewTask (taskId : TaskId) (body : Option (Coroutine ω))
    (timeoutMs : Int) (callback : Bool) : Option (LoopState ω n m) :=
  match body with
  | none => some s
  | some body =>
    if !s.running || !s.acceptingIo then some s
    else if s.pendings.contains taskId then some s
    else if taskId ∈ s.used then none
    else
      let entry : PendingEntry ω :=
        { task := { point := .start body, cb := callback }
          deadline := s.now + (max 1 timeoutMs).toNat }
      some { (s.setEntry taskId entry).pushReady taskId with
        used := taskId :: s.used
        accepted := if callback then taskId :: s.accepted else s.accepted }

/-! ## The coroutine inside `Resume()` -/

/-- `SubmitIo`, called by the coroutine that `owner` runs.  The Boolean is its
return value. -/
def submitIo (taskId : TaskId) (work : ω) (timeoutMs : Int) : Bool × LoopState ω n m :=
  match s.pendings[taskId]? with
  | none => (false, s)
  | some entry =>
    if !s.acceptingIo || entry.state ≠ .running || entry.cancelRequested then (false, s)
    else if entry.deadline ≤ s.now then
      (false, s.setEntry taskId { entry with cancelRequested := true })
    else
      let ioDeadline := min entry.deadline (s.now + (max 1 timeoutMs).toNat)
      let generation := entry.generation + 1
      let entry :=
        { entry with
          state := .waiting
          ioInFlight := true
          ioDeadline := ioDeadline
          generation := generation }
      let job : IoJob ω := ⟨taskId, generation, ioDeadline, work⟩
      (true, (s.setEntry taskId entry).pushIo job)

def writeFrame (taskId : TaskId) (write : CoTask ω → CoTask ω) : LoopState ω n m :=
  match s.pendings[taskId]? with
  | none => s
  | some entry => s.setEntry taskId { entry with task := write entry.task }

variable (owner : Fin n)

/-- `await_suspend`: without work the coroutine goes on at once; with work it
suspends exactly when `SubmitIo` takes the job. -/
def awaitSuspend (taskId : TaskId) (timeoutMs : Int) (work : Option ω)
    (continuation : DockerTaskResult → Coroutine ω) : LoopState ω n m :=
  match work with
  | none => s.setOwner owner (.resuming taskId (continuation executorUnavailable))
  | some work =>
    match submitIo s taskId work (max 1 timeoutMs) with
    | (false, s) => s.setOwner owner (.resuming taskId (continuation submissionRefused))
    | (true, s) =>
      (writeFrame s taskId fun task => { task with point := .await continuation }).setOwner
        owner (.returning taskId)

/-- `task->Resume()` is entered: the coroutine's code starts to run, unless the
coroutine is done (or its frame is gone). -/
def resume : Option (LoopState ω n m) :=
  match s.owners owner with
  | .popped taskId =>
    match s.pendings[taskId]? with
    | none => some (s.setOwner owner (.returning taskId))
    | some entry =>
      match entry.task.resumeBody with
      | none => some (s.setOwner owner (.returning taskId))
      | some body =>
        some ((writeFrame s taskId fun task => { task with point := .executing }).setOwner
          owner (.resuming taskId body))
  | _ => none

/-- The next piece of coroutine code; `time` is what the wall clock reads. -/
def coroutineStep (time : Int) : Option (LoopState ω n m) :=
  match s.owners owner with
  | .resuming taskId (.done request) =>
    some ((writeFrame s taskId fun task =>
      { task with point := .final, request := request }).setOwner owner (.returning taskId))
  | .resuming taskId (.time continuation) =>
    some (s.setOwner owner (.resuming taskId (continuation time)))
  | .resuming taskId (.await timeoutMs work continuation) =>
    some (awaitSuspend s owner taskId timeoutMs work continuation)
  | _ => none

def resumeReturns : Option (LoopState ω n m) :=
  match s.owners owner with
  | .returning taskId => some (s.setOwner owner (.post taskId false))
  | _ => none

/-! ## The owner's sections -/

def PendingEntry.overdue (entry : PendingEntry ω) (now : Nat) : Bool :=
  !entry.cancelRequested && entry.deadline ≤ now

def PendingEntry.sweep (entry : PendingEntry ω) (now : Nat) : PendingEntry ω :=
  if entry.overdue now then
    { entry with
      cancelRequested := true
      state := if entry.state = .running then .running else .ready }
  else entry

/-- The tasks the sweep pushes on `_ready`, in the order of `_pendings`. -/
def sweptReady : List TaskId :=
  (s.pendings.toList.filter fun p => p.2.overdue s.now && p.2.state ≠ .running).map Prod.fst

def sweep : LoopState ω n m :=
  { s with
    pendings := s.pendings.map fun _ entry => entry.sweep s.now
    ready := s.ready ++ sweptReady s }

/-- Take the front of `_ready` and, if that entry is ready, claim it (lines
317-327). -/
def popReady : LoopState ω n m :=
  match s.ready with
  | [] => if s.stopOwners then s.setOwner owner .exited else s
  | taskId :: rest =>
    let s := { s with ready := rest }
    match s.pendings[taskId]? with
    | none => s
    | some entry =>
      if entry.state = .ready then
        let stopping := !s.running || entry.cancelRequested
        (s.setEntry taskId { entry with state := .running }).setOwner owner
          (if stopping then .post taskId true else .popped taskId)
      else s

def ownerSection : Option (LoopState ω n m) :=
  match s.owners owner with
  | .idle => some (popReady (sweep s) owner)
  | _ => none

def CoTask.outcome (task : CoTask ω) : JudgeResult :=
  task.request.getD { status := .systemError }

def postResume : Option (LoopState ω n m) :=
  match s.owners owner with
  | .post taskId stopping =>
    match s.pendings[taskId]? with
    | none => some (s.setOwner owner .idle)
    | some entry =>
      let taken := { entry with task := { entry.task with cb := false } }
      if stopping || entry.cancelRequested then
        some ((s.setEntry taskId taken).setOwner owner (.cancelling taskId entry.task.cb))
      else if entry.task.done then
        some ((s.setEntry taskId taken).setOwner owner
          (.completing taskId entry.task.cb entry.task.outcome))
      else some (s.setOwner owner .idle)
  | _ => none

def invokeCallback : Option (LoopState ω n m) :=
  match s.owners owner with
  | .cancelling taskId callback =>
    some { s.setOwner owner (.cancelled taskId callback) with
      invoked := if callback then taskId :: s.invoked else s.invoked }
  | .completing taskId callback _ =>
    some { s.setOwner owner (.completed taskId callback) with
      invoked := if callback then taskId :: s.invoked else s.invoked }
  | _ => none

def finish : Option (LoopState ω n m) :=
  match s.owners owner with
  | .cancelled taskId _ =>
    match s.pendings[taskId]? with
    | none => some (s.setOwner owner .idle)
    | some entry =>
      if entry.ioInFlight then
        some ((s.setEntry taskId { entry with state := .waiting }).setOwner owner .idle)
      else some ((s.eraseEntry taskId).setOwner owner .idle)
  | .completed taskId _ => some ((s.eraseEntry taskId).setOwner owner .idle)
  | _ => none

/-! ## The I/O workers -/

variable {owner}

/-- The first section of `IoWork`: leave when the loop is stopped, else take a
job. -/
def ioTake (worker : Fin m) : Option (LoopState ω n m) :=
  match s.ios worker with
  | .idle =>
    if !s.running then some (s.setIo worker .exited)
    else
      match s.ioQueue with
      | [] => none
      | job :: rest => some ({ s with ioQueue := rest }.setIo worker (.holding job))
  | _ => none

def ioBegin (worker : Fin m) : Option (LoopState ω n m) :=
  match s.ios worker with
  | .holding job =>
    if job.deadline ≤ s.now then some (s.setIo worker (.finished job expiredBeforeExecution))
    else some (s.setIo worker (.executing job))
  | _ => none

def ioFinish (worker : Fin m) (outcome : WorkOutcome) : Option (LoopState ω n m) :=
  match s.ios worker with
  | .executing job => some (s.setIo worker (.finished job outcome.result))
  | _ => none

def completeIo (taskId : TaskId) (generation : UInt64) (result : DockerTaskResult) :
    LoopState ω n m :=
  match s.pendings[taskId]? with
  | none => s
  | some entry =>
    if entry.generation ≠ generation then s
    else
      let entry := { entry with ioInFlight := false }
      if entry.cancelRequested || !s.running then
        let entry := { entry with cancelRequested := true }
        if entry.state ≠ .running then
          (s.setEntry taskId { entry with state := .ready }).pushReady taskId
        else s.setEntry taskId entry
      else
        let result := if entry.ioDeadline ≤ s.now then lateResult result else result
        let entry :=
          { entry with
            task := { entry.task with result := result }
            state := .ready }
        (s.setEntry taskId entry).pushReady taskId

def ioComplete (worker : Fin m) : Option (LoopState ω n m) :=
  match s.ios worker with
  | .finished job result =>
    some ((completeIo s job.taskId job.generation result).setIo worker .idle)
  | _ => none

/-! ## `Stop` -/

/-- What `Stop` does to one entry under the mutex (lines 167-172). -/
def PendingEntry.cancel (entry : PendingEntry ω) : PendingEntry ω :=
  { entry with
    ioInFlight := false
    cancelRequested := true
    state := if entry.state = .running then .running else .ready }

/-- The tasks `Stop` pushes on `_ready`, in the order of `_pendings`. -/
def stopReady : List TaskId :=
  (s.pendings.toList.filter fun p => p.2.state ≠ .running).map Prod.fst

def stopSweep : LoopState ω n m :=
  { s with
    pendings := s.pendings.map fun _ entry => entry.cancel
    ready := s.ready ++ stopReady s }

/-- The thread has left its function, so that `join` returns. -/
def OwnerPc.isExited : OwnerPc ω → Bool
  | .exited => true
  | _ => false

@[inherit_doc OwnerPc.isExited]
def IoPc.isExited : IoPc ω → Bool
  | .exited => true
  | _ => false

/-- The next step of the one call of `Stop`. -/
def stopStep : Option (LoopState ω n m) :=
  match s.stop with
  | .notCalled => some { s with acceptingIo := false, stop := .acceptingCleared }
  | .acceptingCleared => some { s with running := false, stop := .runningCleared }
  | .runningCleared => some { s with ioQueue := [], stop := .ioSwapped }
  | .ioSwapped => some { s with stop := .ioNotified }
  | .ioNotified =>
    if ∀ worker, (s.ios worker).isExited then some { s with stop := .ioJoined } else none
  | .ioJoined => some { stopSweep s with stop := .swept }
  | .swept => some { s with stopOwners := true, stop := .ownersStopped }
  | .ownersStopped => some { s with stop := .ownersNotified }
  | .ownersNotified =>
    if ∀ owner, (s.owners owner).isExited then some { s with stop := .returned } else none
  | .returned => none

/-! ## The system -/

inductive Action (ω : Type) (n m : Nat)
  | tick (milliseconds : Nat)
  | pushNewTask (taskId : TaskId) (body : Option (Coroutine ω)) (timeoutMs : Int)
      (callback : Bool)
  | ownerSection (owner : Fin n)
  | resume (owner : Fin n)
  | coroutine (owner : Fin n) (time : Int)
  | resumeReturns (owner : Fin n)
  | postResume (owner : Fin n)
  | invokeCallback (owner : Fin n)
  | finish (owner : Fin n)
  | ioTake (worker : Fin m)
  | ioBegin (worker : Fin m)
  | ioFinish (worker : Fin m) (outcome : WorkOutcome)
  | ioComplete (worker : Fin m)
  | stop

def step : Action ω n m → Option (LoopState ω n m)
  | .tick milliseconds => some { s with now := s.now + milliseconds }
  | .pushNewTask taskId body timeoutMs callback => pushNewTask s taskId body timeoutMs callback
  | .ownerSection owner => ownerSection s owner
  | .resume owner => resume s owner
  | .coroutine owner time => coroutineStep s owner time
  | .resumeReturns owner => resumeReturns s owner
  | .postResume owner => postResume s owner
  | .invokeCallback owner => invokeCallback s owner
  | .finish owner => finish s owner
  | .ioTake worker => ioTake s worker
  | .ioBegin worker => ioBegin s worker
  | .ioFinish worker outcome => ioFinish s worker outcome
  | .ioComplete worker => ioComplete s worker
  | .stop => stopStep s

def system (ω : Type) (n m : Nat) : TransitionSystem (LoopState ω n m) (Action ω n m) where
  initial := {}
  step := step

end OnlineJudge.EventLoop
