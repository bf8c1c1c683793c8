import OnlineJudge.Common.Messages

/-!
# Coroutines, their frames and the I/O awaitable

`CoTask` (`event_loop.hpp`) suspends only at `co_await DockerTaskAwaitable{timeout, work}` and at
its end.  What it still has to do is a tree (`Coroutine`); a frame is where it is suspended.
-/

namespace OnlineJudge.EventLoop

variable {ω : Type}

/-- The rest of a coroutine over I/O work of type `ω`. -/
inductive Coroutine (ω : Type) : Type
  /-- `co_return request`, possibly with a null pointer. -/
  | done (request : Option JudgeResult)
  /-- `std::time(nullptr)`. -/
  | time (continuation : Int → Coroutine ω)
  /-- `co_await DockerTaskAwaitable{timeoutMs, work}`; `none` is an empty
  `std::function`. -/
  | await (timeoutMs : Int) (work : Option ω)
      (continuation : DockerTaskResult → Coroutine ω)

inductive ResumePoint (ω : Type) : Type
  | start (body : Coroutine ω)
  | await (continuation : DockerTaskResult → Coroutine ω)
  | executing
  | final

/-- A coroutine frame with its promise (`CoTask::promise_type`). -/
structure CoTask (ω : Type) where
  point : ResumePoint ω
  cb : Bool
  result : DockerTaskResult := {}
  request : Option JudgeResult := none

namespace CoTask

def done (task : CoTask ω) : Bool :=
  match task.point with
  | .final => true
  | _ => false

/-- The code that `_handle.resume()` runs; `none` where `CoTask::Resume` does
nothing. -/
def resumeBody (task : CoTask ω) : Option (Coroutine ω) :=
  match task.point with
  | .start body => some body
  | .await continuation => some (continuation task.result)
  | .executing => none
  | .final => none

end CoTask

/-- `await_suspend` without an executor or without work. -/
def executorUnavailable : DockerTaskResult where
  status := .systemError
  stderrStr := text "Docker I/O executor is unavailable"

/-- `await_suspend` when `SubmitIo` refuses the work. -/
def submissionRefused : DockerTaskResult where
  status := .cancelled
  killed := true
  stderrStr := text "Judge event loop stopped"

/-- What `IoWork` reports for a job whose deadline has passed when it is taken
from the queue. -/
def expiredBeforeExecution : DockerTaskResult where
  status := .timeLimit
  timedOut := true
  stderrStr := text "Docker I/O deadline exceeded before execution"

/-- How a piece of work ends: it returns, or it throws something that `IoWork`
catches. -/
inductive WorkOutcome
  | returned (result : DockerTaskResult)
  | threwException (what : Bytes)
  | threwUnknown

/-- The result `IoWork` passes on for a piece of work it has executed. -/
def WorkOutcome.result : WorkOutcome → DockerTaskResult
  | .returned result => result
  | .threwException what => { status := .systemError, stderrStr := what }
  | .threwUnknown => { status := .systemError, stderrStr := text "Unknown Docker executor failure" }

/-- What `CompleteIo` makes of a result that arrives at or after the I/O
deadline. -/
def lateResult (result : DockerTaskResult) : DockerTaskResult :=
  { result with
    status := .timeLimit
    timedOut := true
    killed := result.killed || result.exitCode < 0
    stderrStr :=
      if result.stderrStr.isEmpty then text "Docker I/O deadline exceeded"
      else result.stderrStr }

end OnlineJudge.EventLoop
