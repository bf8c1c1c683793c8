import OnlineJudge.Library.Program
import OnlineJudge.Sandbox.Stream

/-!
# The Docker sandbox

`DockerSandbox` (`docker_sandbox.hpp`) drives one container through the Docker Engine API.  Its
methods are programs over a `Host`; the parameter `Engine` may answer every call in any way.
-/

namespace OnlineJudge.Sandbox

/-! ## Calls -/

structure SandboxConfig where
  image : String := "oj-sandbox:latest"
  cpuLimitMs : Int := 2000
  memoryLimitMb : Int := 256
  timeoutMs : Int := 5000
  networkDisabled : Bool := true
  readOnlyRoot : Bool := true
  workDir : String := "/home/judge"
  outputLimitBytes : Nat := 1024 * 1024
  deriving DecidableEq

/-- The files in `/home/judge` that the judge writes and reads. -/
inductive SandboxPath
  /-- `source.cpp`. -/
  | source
  /-- `main`. -/
  | executable
  | compileErr
  /-- `input.txt`. -/
  | input
  /-- `output.txt`. -/
  | output
  deriving DecidableEq

inductive Command
  /-- `echo '<base64>' | base64 -d > path`, for the encoding of `content`. -/
  | writeFile (path : SandboxPath) (content : Bytes)
  /-- `cat path`. -/
  | cat (path : SandboxPath)
  /-- `CXX_STANDARD=<standard> /judge/compile.sh`. -/
  | compile (standard : String)
  /-- `chmod +x /home/judge/main`. -/
  | chmod
  /-- `TIME_LIMIT=.. MEM_LIMIT=.. OUTPUT_LIMIT_KB=1024 /judge/run.sh`. -/
  | run (timeLimit memLimitKb : Int)
  /-- `cat /sys/fs/cgroup/memory.peak`. -/
  | memoryPeak
  deriving DecidableEq

/-- The path of the last two `exec` requests names the `exec` only; the command is a note for the
reader. -/
inductive Request
  | create (config : SandboxConfig)
  | start (containerId : Bytes)
  | createExec (containerId : Bytes) (command : Command)
  | startExec (execId : Bytes) (command : Command)
  | inspectExec (execId : Bytes) (command : Command)
  | kill (containerId : Bytes)
  | inspect (containerId : Bytes)
  | remove (containerId : Bytes)
  deriving DecidableEq

inductive CurlCode
  | ok
  | operationTimedout
  | failed (message : Bytes)
  deriving DecidableEq

structure Outcome where
  elapsedMs : Nat := 0
  code : CurlCode := .ok
  httpStatus : Nat := 200
  pieces : List Bytes := []
  deriving DecidableEq

inductive CallFate
  | performed (outcome : Outcome)
  /-- `curl_easy_init` returns a null pointer. -/
  | noHandle
  | throws (what : Bytes)
  deriving DecidableEq

structure ApiResponse where
  ok : Bool := false
  timedOut : Bool := false
  outputLimited : Bool := false
  httpStatus : Nat := 0
  body : Bytes := []
  error : Bytes := []
  deriving DecidableEq

def successStatus (httpStatus : Nat) : Bool :=
  httpStatus = 101 || (httpStatus ≥ 200 && httpStatus < 300)

/-- The code that `curl_easy_perform` returns: a piece that the callback refuses
ends the transfer with `CURLE_WRITE_ERROR`. -/
def Outcome.result (outcome : Outcome) (output : CurlOutput) : CurlCode :=
  if output.limited then .failed (text "Failed writing received data to disk/application")
  else outcome.code

def apiError (result : CurlCode) (httpStatus : Nat) (body : Bytes) : Bytes :=
  match result with
  | .ok => text "Docker API HTTP " ++ text (toString httpStatus) ++ text ": " ++ body
  | .operationTimedout => text "Timeout was reached"
  | .failed message => message

/-- `DockerApiCall` after `curl_easy_perform`. -/
def Outcome.response (outcome : Outcome) (outputLimit : Nat) : ApiResponse :=
  let output := receive { limit := outputLimit } outcome.pieces
  let result := outcome.result output
  let ok := decide (result = .ok) && successStatus outcome.httpStatus
  { ok := ok
    timedOut := decide (result = .operationTimedout)
    outputLimited := output.limited
    httpStatus := outcome.httpStatus
    body := output.data
    error := if ok then [] else apiError result outcome.httpStatus output.data }

/-! ## The sandbox and its surroundings -/

/-- jsoncpp: `Reader::parse` and the accessors of `Value`, which throw on values of
the wrong kind. -/
structure JsonCpp where
  Value : Type
  parse : Bytes → Option Value
  find : Value → String → Except Bytes (Option Value)
  asString : Value → Except Bytes Bytes
  asBool : Value → Except Bytes Bool
  asInt : Value → Except Bytes Int

/-- The world outside the judge, with a state of type `σ`. -/
structure Engine (σ : Type) where
  respond : σ → Request → Int → CallFate × σ
  json : JsonCpp

structure DockerSandbox where
  containerId : Bytes := []
  config : SandboxConfig := {}
  created : Bool := false
  lastError : Bytes := []
  deriving DecidableEq

structure ApiCall where
  request : Request
  response : ApiResponse
  deriving DecidableEq

/-- What a method of a sandbox sees: the world, the steady clock in milliseconds,
and its own fields.  `calls` records the calls, the last one first. -/
structure Host (σ : Type) where
  world : σ
  clock : Nat
  sandbox : DockerSandbox
  calls : List ApiCall

abbrev SandboxM (σ : Type) : Type → Type := Program Bytes (Host σ)

structure ExecResult where
  exitCode : Int := -1
  stdoutStr : Bytes := []
  stderrStr : Bytes := []
  timeMs : Nat := 0
  timedOut : Bool := false
  killed : Bool := false
  deriving DecidableEq

def callTimeoutMs : Int := 5000

def callOutputLimit : Nat := 1024 * 1024

section Methods

variable {σ : Type} (engine : Engine σ)

def Host.performed (host : Host σ) (world : σ) (elapsedMs : Nat) (request : Request)
    (response : ApiResponse) : Host σ :=
  { world := world
    clock := host.clock + elapsedMs
    sandbox := { host.sandbox with lastError := response.error }
    calls := ⟨request, response⟩ :: host.calls }

def dockerApiCall (request : Request) (timeoutMs : Int) (outputLimit : Nat) :
    SandboxM σ ApiResponse := do
  let host ← get
  match engine.respond host.world request (max 1 timeoutMs) with
  | (.throws what, world) => do
      set { host with world := world }
      throw what
  | (.noHandle, world) => do
      -- an early return, which leaves `_last_error` alone
      let response : ApiResponse := { error := text "curl_easy_init failed" }
      set { host with world := world, calls := ⟨request, response⟩ :: host.calls }
      return response
  | (.performed outcome, world) => do
      let response := outcome.response outputLimit
      set (host.performed world outcome.elapsedMs request response)
      return response

def parseDockerResponse (json : JsonCpp) (body : Bytes) (key : String) :
    Except Bytes (Option Bytes) :=
  match json.parse body with
  | none => .ok none
  | some root =>
    match json.find root key with
    | .error what => .error what
    | .ok none => .ok none
    | .ok (some value) => (json.asString value).map some

/-- `response.ok ? ParseDockerResponse(response.body, "Id") : std::nullopt`. -/
def responseId (json : JsonCpp) (response : ApiResponse) : Except Bytes (Option Bytes) :=
  if response.ok then parseDockerResponse json response.body "Id" else .ok none

def create (config : SandboxConfig) : SandboxM σ Bytes := do
  modify fun host => { host with sandbox := { host.sandbox with config := config } }
  let response ← dockerApiCall engine (.create config) callTimeoutMs callOutputLimit
  let id ← Program.ofExcept (responseId engine.json response)
  if let some id := id then
    modify fun host =>
      { host with sandbox := { host.sandbox with containerId := id, created := true } }
  return (← get).sandbox.containerId

def start : SandboxM σ Int := do
  let host ← get
  if host.sandbox.containerId = [] then return -1
  let response ←
    dockerApiCall engine (.start host.sandbox.containerId) callTimeoutMs callOutputLimit
  return if response.ok then 0 else -1

def kill : SandboxM σ Bool := do
  let host ← get
  if host.sandbox.containerId = [] then return false
  let response ← dockerApiCall engine (.kill host.sandbox.containerId) 2000 callOutputLimit
  return response.ok

def destroy : SandboxM σ Unit := do
  let host ← get
  if host.sandbox.containerId = [] then return ()
  let _ ← dockerApiCall engine (.remove host.sandbox.containerId) 3000 callOutputLimit
  modify fun host =>
    { host with sandbox := { host.sandbox with containerId := [], created := false } }

/-! ## Exec -/

/-- What an inspect response says about an `exec`. -/
inductive ExecState
  | unparsable
  | running
  | exited (exitCode : Int)
  deriving DecidableEq

/-- A boolean member with a default: `value.get(key, default).asBool()`. -/
def getBool (json : JsonCpp) (value : json.Value) (key : String) (default : Bool) :
    Except Bytes Bool :=
  match json.find value key with
  | .error what => .error what
  | .ok none => .ok default
  | .ok (some member) => json.asBool member

/-- An integer member with a default: `value.get(key, default).asInt()`. -/
def getInt (json : JsonCpp) (value : json.Value) (key : String) (default : Int) :
    Except Bytes Int :=
  match json.find value key with
  | .error what => .error what
  | .ok none => .ok default
  | .ok (some member) => json.asInt member

/-- How `Exec` reads the body of an inspect response. -/
def readInspect (json : JsonCpp) (body : Bytes) : Except Bytes ExecState :=
  match json.parse body with
  | none => .ok .unparsable
  | some root =>
    match getBool json root "Running" true with
    | .error what => .error what
    | .ok true => .ok .running
    | .ok false => (getInt json root "ExitCode" (-1)).map .exited

/-- `result.stderr_str` where an inspect response is of no use. -/
def inspectError (response : ApiResponse) : Bytes :=
  if response.error = [] then text "Invalid Docker exec inspect response" else response.error

def sleepTick : SandboxM σ Unit := modify fun host => { host with clock := host.clock + 10 }

def giveUp (result : ExecResult) : SandboxM σ ExecResult := do
  let _ ← kill engine
  return { result with timedOut := true, killed := true }

/-- The loop of `Exec` that waits for the exit code.  A round that goes on takes at
least ten milliseconds, so the time to the deadline is enough fuel; without fuel
the deadline has passed. -/
def awaitExit (command : Command) (execId : Bytes) (deadline : Nat) (result : ExecResult) :
    Nat → SandboxM σ ExecResult
  | 0 => giveUp engine result
  | fuel + 1 => do
      let host ← get
      if host.clock ≥ deadline then giveUp engine result
      else
        let remainingMs : Int := (deadline - host.clock : Nat)
        let response ← dockerApiCall engine (.inspectExec execId command)
          (min 2000 (max 1 remainingMs)) callOutputLimit
        if !response.ok then return { result with stderrStr := inspectError response }
        match ← Program.ofExcept (readInspect engine.json response.body) with
        | .unparsable => return { result with stderrStr := inspectError response }
        | .exited exitCode => return { result with exitCode := exitCode }
        | .running => do
            sleepTick
            awaitExit command execId deadline result fuel

def stampTime (startedAt : Nat) (result : ExecResult) : SandboxM σ ExecResult := do
  return { result with timeMs := (← get).clock - startedAt }

/-- The part of `Exec` after the `exec` has been created. -/
def execCreated (command : Command) (timeoutMs : Int) (startedAt : Nat) (execId : Bytes) :
    SandboxM σ ExecResult := do
  let host ← get
  let response ← dockerApiCall engine (.startExec execId command) (max 1 timeoutMs)
    host.sandbox.config.outputLimitBytes
  let frames := parseMuxStream response.body
  let result : ExecResult := { stdoutStr := stdoutOf frames, stderrStr := stderrOf frames }
  if response.timedOut || response.outputLimited then
    let _ ← kill engine
    stampTime startedAt { result with timedOut := response.timedOut, killed := true }
  else if !response.ok then return { stderrStr := response.error }
  else
    let deadline := startedAt + (max 1 timeoutMs).toNat
    let result ← awaitExit engine command execId deadline result (deadline - (← get).clock)
    stampTime startedAt result

def exec (command : Command) (timeoutMs : Int) : SandboxM σ ExecResult := do
  let host ← get
  if host.sandbox.containerId = [] then return {}
  let response ← dockerApiCall engine (.createExec host.sandbox.containerId command)
    callTimeoutMs callOutputLimit
  match ← Program.ofExcept (responseId engine.json response) with
  | none => return {}
  | some execId => execCreated engine command timeoutMs host.clock execId

def writeFile (path : SandboxPath) (content : Bytes) : SandboxM σ Int := do
  if (← get).sandbox.containerId = [] then return -1
  let result ← exec engine (.writeFile path content) 5000
  if result.exitCode = 0 then return 0
  modify fun host =>
    if host.sandbox.lastError = [] then
      { host with
        sandbox :=
          { host.sandbox with
            lastError :=
              if result.stderrStr = [] then
                text "Docker exec exited with code " ++ text (toString result.exitCode)
              else result.stderrStr } }
    else host
  return -1

def readFile (path : SandboxPath) : SandboxM σ Bytes := do
  if (← get).sandbox.containerId = [] then return []
  let result ← exec engine (.cat path) 5000
  return result.stdoutStr

def wasOomKilled : SandboxM σ Bool := do
  let host ← get
  if host.sandbox.containerId = [] then return false
  let response ← dockerApiCall engine (.inspect host.sandbox.containerId) 2000 callOutputLimit
  if !response.ok then return false
  match engine.json.parse response.body with
  | none => return false
  | some root =>
    match ← Program.ofExcept (engine.json.find root "State") with
    | none => return false
    | some state => Program.ofExcept (getBool engine.json state "OOMKilled" false)

/-! ## Measuring memory -/

def leadingNumber (digits : Bytes) : Nat :=
  (digits.takeWhile fun c => 48 ≤ c && c ≤ 57).foldl (fun n c => n * 10 + (c.toNat - 48)) 0

/-- `std::stoull`: white space, a sign, digits.  `none` is an exception. -/
def stoull (input : Bytes) : Option Nat :=
  let trimmed := input.dropWhile fun c => c = 32 || (9 ≤ c && c ≤ 13)
  let (negative, digits) :=
    match trimmed with
    | 45 :: rest => (true, rest)
    | 43 :: rest => (false, rest)
    | rest => (false, rest)
  if (digits.head?.all fun c => !(48 ≤ c && c ≤ 57)) then none
  else if leadingNumber digits ≥ UInt64.size then none
  else if negative then some ((UInt64.size - leadingNumber digits) % UInt64.size)
  else some (leadingNumber digits)

def memoryPeakBytes : SandboxM σ Nat := do
  let result ← exec engine .memoryPeak 2000
  if result.exitCode ≠ 0 then return 0
  return (stoull result.stdoutStr).getD 0

/-- `SandboxPool::Acquire`, on the fields of a new sandbox. -/
def acquire (config : SandboxConfig) : SandboxM σ Unit := do
  let id ← create engine config
  if id ≠ [] then
    let started ← start engine
    if started ≠ 0 then destroy engine

end Methods

end OnlineJudge.Sandbox
