import OnlineJudge.Common.Messages
import OnlineJudge.Runtime.Executor

/-!
# Dispatching a call to the business executor

`AsyncDispatch` (`async_dispatch.hpp`) turns an RPC call into a task; its frame and the task share a
`DispatchCompletion`, which answers the call.  A step is one operation on the completion.
-/

namespace OnlineJudge.Runtime

abbrev CallId := Nat

structure HttpRequest where
  isPost : Bool
  contentType : Bytes

structure Request where
  /-- `controller != nullptr`. -/
  controller : Bool := true
  /-- The controller is a `brpc::Controller` with an HTTP request. -/
  http : Option HttpRequest := none
  /-- `response != nullptr`. -/
  response : Bool := true
  /-- `HasMutableStatus<Response>`. -/
  hasMutableStatus : Bool := true

def mediaType (contentType : Bytes) : Bytes :=
  (contentType.takeWhile (· ≠ 59)).map toLower

def acceptsType (contentType : Bytes) : Bool :=
  mediaType contentType = text "application/proto" ||
    mediaType contentType = text "application/protobuf" ||
      mediaType contentType = text "application/octet-stream"

inductive Effect
  /-- `http_response().set_status_code`. -/
  | setStatusCode (code : Nat)
  /-- `http_response().SetHeader`. -/
  | setHeader (name value : String)
  | setSuccess (success : Bool)
  | setCode (code : Nat)
  | setMessage (message : String)
  | setRetryable (retryable : Bool)
  /-- `controller->SetFailed`. -/
  | setFailed (message : String)
  /-- `done->Run()`. -/
  | done
  deriving DecidableEq

/-- What goes wrong in `SetDispatchFailure`. -/
structure Throws where
  after : Option Nat := none
  /-- The `SetFailed` of the `catch` block throws too. -/
  again : Bool := false

/-- The `try` block of `SetDispatchFailure`. -/
def failureWrites (request : Request) (code : Nat) (message : String) (retryable : Bool) :
    List Effect :=
  if request.hasMutableStatus && request.response then
    [.setSuccess false, .setCode code, .setMessage message, .setRetryable retryable]
  else if request.controller then [.setFailed message]
  else []

def setDispatchFailure (request : Request) (code : Nat) (message : String) (retryable : Bool)
    (throws : Throws) : List Effect :=
  let writes := failureWrites request code message retryable
  match throws.after with
  | none => writes
  | some n =>
    writes.take n ++
      if request.controller && !throws.again then [.setFailed "RPC_DISPATCH_FAILURE"] else []

inductive Method
  | finish
  | fail (code : Nat) (message : String) (retryable : Bool)
  deriving DecidableEq

inductive Progress
  | entered (method : Method)
  /-- `completed_` was false, and the failure is to be written. -/
  | writing (code : Nat) (message : String) (retryable : Bool)
  /-- `RunDone` is to be called. -/
  | running
  | ended
  deriving DecidableEq

inductive Caller
  | absent
  | returning
  | failing (progress : Progress)
  | returned
  deriving DecidableEq

inductive Body
  | waiting
  | entered
  /-- The status code 405 is set, and the header `Allow` is to be set. -/
  | allow
  /-- Inside `detail::Invoke`. -/
  | invoking
  | completing (progress : Progress)
  | ended
  deriving DecidableEq

structure Call where
  request : Request := {}
  caller : Caller := .absent
  task : Bool := false
  body : Body := .waiting
  completed : Bool := false
  log : List Effect := []

namespace Call

variable (call : Call) (throws : Throws)

/-- One operation of `Finish` or `Fail`. -/
def advance : Progress → Option (Call × Progress)
  | .entered method =>
    if call.completed then some (call, .ended)
    else
      let call := { call with completed := true }
      match method with
      | .finish => some (call, .running)
      | .fail code message retryable => some (call, .writing code message retryable)
  | .writing code message retryable =>
    let writes := setDispatchFailure call.request code message retryable throws
    some ({ call with log := call.log ++ writes }, .running)
  | .running => some ({ call with log := call.log ++ [.done] }, .ended)
  | .ended => none

def destroy : Call :=
  if call.completed then call
  else
    { call with
      completed := true
      log := call.log ++
        setDispatchFailure call.request 503 "BUSINESS_EXECUTOR_STOPPED" true throws ++ [.done] }

def dropTask : Call :=
  if call.caller = .returned then { call with task := false }.destroy throws
  else { call with task := false }

/-- `AsyncDispatch` returns, and the completion is destroyed where the task is gone. -/
def returns : Option Call :=
  match call.caller with
  | .returning | .failing .ended =>
    some (if call.task then { call with caller := .returned }
      else { call with caller := .returned }.destroy throws)
  | _ => none

/-- The frame goes on in `Fail`. -/
def fails : Option Call :=
  match call.caller with
  | .failing progress =>
    (call.advance throws progress).map fun (call, progress) =>
      { call with caller := .failing progress }
  | _ => none

end Call

inductive Event
  | raise
  /-- The next operation succeeds; `cancelled` is what `IsCanceled` would say. -/
  | proceed (cancelled : Bool) (throws : Throws)

namespace Call

def check (call : Call) (cancelled : Bool) : Call :=
  let checkCancelled : Call :=
    if call.request.controller && cancelled then
      { call with body := .completing (.entered (.fail 499 "REQUEST_CANCELLED" false)) }
    else { call with body := .invoking }
  match call.request.controller, call.request.http with
  | true, some http =>
    if !http.isPost then { call with log := call.log ++ [.setStatusCode 405], body := .allow }
    else if !acceptsType http.contentType then
      { call with
        log := call.log ++ [.setStatusCode 415]
        body := .completing (.entered (.fail 415 "PROTOBUF_CONTENT_TYPE_REQUIRED" false)) }
    else checkCancelled
  | _, _ => checkCancelled

def bodyStep (call : Call) : Event → Option Call
  | .raise =>
    match call.body with
    | .entered | .allow => some { call with body := .ended }
    | .invoking =>
      some { call with body := .completing (.entered (.fail 500 "INTERNAL_ERROR" false)) }
    | _ => none
  | .proceed cancelled throws =>
    match call.body with
    | .entered => some (call.check cancelled)
    | .allow =>
      some { call with
        log := call.log ++ [.setHeader "Allow" "POST"]
        body := .completing (.entered (.fail 405 "METHOD_NOT_ALLOWED" false)) }
    | .invoking => some { call with body := .completing (.entered .finish) }
    | .completing progress =>
      (call.advance throws progress).map fun (call, progress) =>
        { call with body := if progress = .ended then .ended else .completing progress }
    | _ => none

end Call

structure Dispatcher (config : Config) where
  executor : Executor config CallId := {}
  /-- The destructor of the executor has returned from `Stop`. -/
  destroying : Bool := false
  calls : CallId → Call := fun _ => {}

inductive DispatchAction (config : Config)
  /-- `AsyncDispatch` up to the return of `Submit`. -/
  | dispatch (id : CallId) (request : Request)
  | fails (id : CallId) (throws : Throws)
  | returns (id : CallId) (throws : Throws)
  | body (i : Fin config.workerCount) (event : Event)
  | executor (action : Action config CallId) (throws : Throws)
  | destroy
  | dropQueued (throws : Throws)

variable {config : Config}

namespace Dispatcher

variable (s : Dispatcher config)

def setCall (id : CallId) (call : Call) : Dispatcher config :=
  { s with calls := Function.update s.calls id call }

/-- `AsyncDispatch` up to the return of `Submit`.  A rejected task is destroyed with the
parameter of `Submit`. -/
def dispatch (id : CallId) (request : Request) : Dispatcher config :=
  let (executor, result) := s.executor.submit id
  let s := { s with executor }
  match result with
  | .accepted => s.setCall id { request, caller := .returning, task := true }
  | .queueFull =>
    s.setCall id { request, caller := .failing (.entered (.fail 503 "BUSINESS_QUEUE_FULL" true)) }
  | .stopped =>
    s.setCall id
      { request, caller := .failing (.entered (.fail 503 "BUSINESS_EXECUTOR_STOPPED" true)) }

/-- A step of `Start`, `Stop` or a worker. -/
def executorStep (throws : Throws) :
    Action config CallId → Option (Dispatcher config)
  | .submit _ => none
  | .begin i =>
    match s.executor.workers i with
    | .holding id =>
      (s.executor.begin i).map fun executor =>
        { s with executor }.setCall id { s.calls id with body := .entered }
    | _ => none
  | .finish i =>
    match s.executor.workers i with
    | .running id =>
      if (s.calls id).body = .ended then
        (s.executor.finish i).map fun executor => { s with executor }
      else none
    | _ => none
  | .popCancelled =>
    s.executor.popCancelled.map fun (id, executor) =>
      { s with executor }.setCall id ((s.calls id).dropTask throws)
  | .discard i =>
    (s.executor.discard i).map fun (id, executor) =>
      { s with executor }.setCall id ((s.calls id).dropTask throws)
  | action => (step s.executor action).map fun executor => { s with executor }

end Dispatcher

def dispatchStep (s : Dispatcher config) : DispatchAction config → Option (Dispatcher config)
  | .dispatch id request =>
    if s.destroying then none
    else if (s.calls id).caller = .absent then some (s.dispatch id request)
    else none
  | .fails id throws => ((s.calls id).fails throws).map (s.setCall id)
  | .returns id throws => ((s.calls id).returns throws).map (s.setCall id)
  | .body i event =>
    match s.executor.workers i with
    | .running id => ((s.calls id).bodyStep event).map (s.setCall id)
    | _ => none
  | .executor action throws => if s.destroying then none else s.executorStep throws action
  | .destroy =>
    if s.executor.stopped && (s.executor.lifecycle matches .free) then
      some { s with destroying := true }
    else none
  | .dropQueued throws =>
    match s.destroying, s.executor.tasks with
    | true, id :: rest =>
      some ({ s with executor := { s.executor with tasks := rest } }.setCall id
        ((s.calls id).dropTask throws))
    | _, _ => none

def dispatchSystem (config : Config) :
    TransitionSystem (Dispatcher config) (DispatchAction config) where
  initial := {}
  step := dispatchStep

end OnlineJudge.Runtime
