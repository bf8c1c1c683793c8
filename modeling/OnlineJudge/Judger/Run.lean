import OnlineJudge.EventLoop.CoTask
import OnlineJudge.Delivery.Policy
import OnlineJudge.Sandbox.Docker

/-!
# Judging a submission

`Judger::Run` (`judger.hpp`) is a coroutine over the jobs that it awaits (`judgerRun`); an I/O
worker executes `Job.program` for a job.  `conduct` is a whole run.
-/

namespace OnlineJudge.Judger

open EventLoop Sandbox Delivery

/-! ## Tests and verdicts -/

structure TestCase where
  testCaseId : UInt64 := 0
  index : UInt32 := 0
  input : Bytes := []
  output : Bytes := []
  cpuLimit : Int := 1
  memLimit : Int := 1
  deriving DecidableEq

/-- `NormalizeOutput` on one line, given back to front: trailing spaces, tabs and
carriage returns go. -/
def stripLine (reversed : Bytes) : Bytes :=
  (reversed.dropWhile fun c => c = 32 || c = 9 || c = 13).reverse

/-- The first loop of `NormalizeOutput`; `line` is what it has seen of the current
line, back to front. -/
def normalizeLines : Bytes → Bytes → Bytes
  | line, [] => if line = [] then [] else stripLine line ++ [10]
  | line, c :: rest =>
    if c = 10 then stripLine line ++ 10 :: normalizeLines [] rest
    else normalizeLines (c :: line) rest

def normalizeOutput (output : Bytes) : Bytes :=
  ((normalizeLines [] output).reverse.dropWhile (· = 10)).reverse

def languageStandard (language : Bytes) : String :=
  if language = text "cpp20" then "c++20" else "c++17"

def toDockerTaskResult (exec : ExecResult) (compile : Bool) : DockerTaskResult where
  exitCode := exec.exitCode
  timedOut := exec.timedOut
  killed := exec.killed
  stdoutStr := exec.stdoutStr
  stderrStr := exec.stderrStr
  status :=
    if exec.timedOut then .timeLimit
    else if exec.exitCode = 0 then .ok
    else if compile then .compileError
    else if exec.exitCode = 137 then .runtimeError
    else if exec.exitCode = 152 then .timeLimit
    else .runtimeError

def mapStatusToSubmissionStatus : TaskStatus → SubmissionStatus
  | .memoryLimit => .memoryLimitExceeded
  | .timeLimit => .timeLimitExceeded
  | _ => .runtimeError

/-! ## The jobs -/

/-- The work that `Judger::Run` awaits, one constructor for each lambda, with what
the lambda captures.  The position of a test in the list is a note for the
reader. -/
inductive Job
  | createCompile
  | startCompile
  | writeSource (code : Bytes)
  | compile (standard : String)
  | readCompileError
  | readExecutable
  | destroyCompile
  | acquireRunner
  | writeExecutable (content : Bytes)
  | chmod
  | writeInput (position : Nat) (input : Bytes)
  | run (position : Nat) (test : TestCase) (timeLimitMs : UInt32)
  | readOutput (position : Nat)
  | destroyRunner
  deriving DecidableEq

inductive Place
  | compileSandbox
  | runnerSandbox
  | newRunner
  deriving DecidableEq

def Job.place : Job → Place
  | .createCompile | .startCompile | .writeSource _ | .compile _ | .readCompileError
  | .readExecutable | .destroyCompile => .compileSandbox
  | .acquireRunner => .newRunner
  | .writeExecutable _ | .chmod | .writeInput .. | .run .. | .readOutput _
  | .destroyRunner => .runnerSandbox

def compileConfig : SandboxConfig := { image := "oj-compiler:latest" }

def codeResult (rc : Int) : DockerTaskResult where
  status := if rc = 0 then .ok else .systemError
  exitCode := rc

def bytesResult (bytes : Bytes) : DockerTaskResult where
  stdoutStr := bytes
  status := if bytes = [] then .systemError else .ok

/-- `request.time_limit_ms() + 1000`: the sum of 32-bit numbers without a sign, passed
on as an `int`. -/
def wallTimeout (timeLimitMs : UInt32) : Int := (timeLimitMs + 1000).toInt32.toInt

section Programs

variable {σ : Type} (engine : Engine σ) (pool : Option SandboxConfig)

def runTest (test : TestCase) (timeLimitMs : UInt32) : SandboxM σ DockerTaskResult := do
  let started := (← get).clock
  let executed ← exec engine (.run (max 1 test.cpuLimit) (max 1 test.memLimit * 1024))
    (wallTimeout timeLimitMs)
  let result := toDockerTaskResult executed false
  let timeUsedMs := (← get).clock - started
  let oomKilled ← if result.exitCode = 137 then wasOomKilled engine else pure false
  let memoryUsedBytes ← memoryPeakBytes engine
  return { result with
    timeUsedMs := timeUsedMs
    memoryUsedBytes := memoryUsedBytes
    status := if oomKilled then .memoryLimit else result.status }

def Job.program : Job → SandboxM σ DockerTaskResult
  | .createCompile => return bytesResult (← create engine compileConfig)
  | .startCompile => return codeResult (← start engine)
  | .writeSource code => return codeResult (← writeFile engine .source code)
  | .compile standard => return toDockerTaskResult (← exec engine (.compile standard) 10000) true
  | .readCompileError => return { stdoutStr := ← readFile engine .compileErr, status := .ok }
  | .readExecutable => return bytesResult (← readFile engine .executable)
  | .destroyCompile | .destroyRunner => do
      destroy engine
      return codeResult 0
  | .acquireRunner => do
      -- without a pool the pointer stays null, like a sandbox without a container
      if let some config := pool then acquire engine config
      return codeResult (if (← get).sandbox.containerId = [] then -1 else 0)
  | .writeExecutable content => return codeResult (← writeFile engine .executable content)
  | .chmod => return toDockerTaskResult (← exec engine .chmod 5000) false
  | .writeInput _ input => return codeResult (← writeFile engine .input input)
  | .run _ test timeLimitMs => runTest engine test timeLimitMs
  | .readOutput _ => return { stdoutStr := ← readFile engine .output, status := .ok }

end Programs

/-! ## The coroutine -/

def errorResult (status : SubmissionStatus) : Coroutine Job :=
  .time fun now => .done (some { status := status, completedAt := now })

def recordTest (resp : JudgeResult) (testResult : TestCaseResult) : JudgeResult :=
  { resp with
    testCaseResults := resp.testCaseResults ++ [testResult]
    timeUsedMs := resp.timeUsedMs + testResult.timeUsedMs
    memoryUsedBytes := max resp.memoryUsedBytes testResult.memoryUsedBytes
    status :=
      if resp.status = .accepted ∧ testResult.status ≠ .accepted then testResult.status
      else resp.status }

def newTestResult (test : TestCase) (runResult : DockerTaskResult) : TestCaseResult where
  index := test.index.toNat
  input := test.input
  expectedOutput := test.output
  timeUsedMs := runResult.timeUsedMs
  memoryUsedBytes := runResult.memoryUsedBytes

def comparesOutput (request : JudgeTaskMessage) : Bool :=
  match request.target with
  | some (.custom _) => isGuestSubmission request
  | _ => true

def outputStatus (request : JudgeTaskMessage) (test : TestCase) (userOutput : Bytes) :
    SubmissionStatus :=
  if comparesOutput request ∧ normalizeOutput userOutput ≠ normalizeOutput test.output then
    .wrongAnswer
  else .accepted

/-- The test loop, which goes on with `rest` after its last round or its `break`. -/
def judgeTests (request : JudgeTaskMessage) (rest : JudgeResult → Coroutine Job) :
    Nat → List TestCase → JudgeResult → Coroutine Job
  | _, [], resp => rest resp
  | position, test :: tests, resp =>
    .await 6000 (some (.writeInput position test.input)) fun writeResult =>
    if writeResult.status ≠ .ok then rest { resp with status := .systemError }
    else
      .await (wallTimeout request.timeLimitMs)
        (some (.run position test request.timeLimitMs)) fun runResult =>
      let testResult := newTestResult test runResult
      if runResult.timedOut then
        judgeTests request rest (position + 1) tests
          (recordTest resp { testResult with
            status := .timeLimitExceeded
            timeUsedMs := max request.timeLimitMs.toNat runResult.timeUsedMs })
      else if runResult.status ≠ .ok then
        judgeTests request rest (position + 1) tests
          (recordTest resp { testResult with
            status := mapStatusToSubmissionStatus runResult.status })
      else
        .await 6000 (some (.readOutput position)) fun readResult =>
        judgeTests request rest (position + 1) tests
          (recordTest resp { testResult with
            actualOutput := readResult.stdoutStr
            status := outputStatus request test readResult.stdoutStr })

def finishRun (resp : JudgeResult) : Coroutine Job :=
  .await 4000 (some .destroyRunner) fun _ =>
  .time fun now => .done (some { resp with completedAt := now })

def initialResult (tests : List TestCase) : JudgeResult where
  status := if tests = [] then .systemError else .accepted

def runPhase (request : JudgeTaskMessage) (tests : List TestCase) (exeContent : Bytes) :
    Coroutine Job :=
  .await 12000 (some .acquireRunner) fun acquireResult =>
  if acquireResult.status ≠ .ok then errorResult .systemError
  else
    .await 6000 (some (.writeExecutable exeContent)) fun writeResult =>
    if writeResult.status ≠ .ok then errorResult .systemError
    else
      .await 6000 (some .chmod) fun chmodResult =>
      if chmodResult.status ≠ .ok then errorResult .systemError
      else judgeTests request finishRun 0 tests (initialResult tests)

def compileFailed : Coroutine Job :=
  .await 6000 (some .readCompileError) fun readResult =>
  .time fun now =>
  .await 4000 (some .destroyCompile) fun _ =>
  .done (some
    { status := .compileError
      compileError := readResult.stdoutStr
      completedAt := now })

def compilePhase (request : JudgeTaskMessage) (tests : List TestCase) : Coroutine Job :=
  .await 6000 (some .startCompile) fun startResult =>
  if startResult.status ≠ .ok then errorResult .systemError
  else
    .await 6000 (some (.writeSource request.code)) fun writeResult =>
    if writeResult.status ≠ .ok then errorResult .systemError
    else
      .await 10000 (some (.compile (languageStandard request.language))) fun compileResult =>
      if compileResult.status ≠ .ok then compileFailed
      else
        .await 6000 (some .readExecutable) fun readResult =>
        if readResult.status ≠ .ok then errorResult .systemError
        else
          .await 4000 (some .destroyCompile) fun _ =>
          runPhase request tests readResult.stdoutStr

def judgerRun (request : JudgeTaskMessage) (tests : List TestCase) : Coroutine Job :=
  .await 6000 (some .createCompile) fun createResult =>
  if createResult.stdoutStr = [] then errorResult .systemError
  else compilePhase request tests

/-! ## Runs -/

inductive Fate
  /-- An I/O worker executes it; `late` says that the result arrives at or after the
  I/O deadline. -/
  | executed (late : Bool)
  | expired
  /-- `SubmitIo` does not accept it. -/
  | refused
  deriving DecidableEq

structure Surroundings (σ : Type) extends Engine σ where
  fate : σ → Job → Fate × σ
  time : σ → Int × σ

/-- The objects of a run: the steady clock and the two sandboxes.  A null pointer to
the runner is `none`. -/
structure Bench (σ : Type) where
  world : σ
  clock : Nat := 0
  compile : DockerSandbox := {}
  runner : Option DockerSandbox := none

structure JobRecord (σ : Type) where
  job : Job
  before : Bench σ
  fate : Fate
  calls : List ApiCall := []
  threw : Bool := false
  result : DockerTaskResult

structure Run (σ : Type) where
  result : Option JudgeResult
  records : List (JobRecord σ)

section Runs

variable {σ : Type} (around : Surroundings σ) (pool : Option SandboxConfig) (bench : Bench σ)

def Bench.sandboxAt : Place → DockerSandbox
  | .compileSandbox => bench.compile
  | .runnerSandbox => bench.runner.getD {}
  | .newRunner => {}

def Bench.host (place : Place) : Host σ where
  world := bench.world
  clock := bench.clock
  sandbox := bench.sandboxAt place
  calls := []

def Bench.store (place : Place) (threw : Bool) (host : Host σ) : Bench σ where
  world := host.world
  clock := host.clock
  compile := if place = .compileSandbox then host.sandbox else bench.compile
  runner :=
    match place with
    | .compileSandbox => bench.runner
    | .runnerSandbox => some host.sandbox
    | .newRunner => if threw then bench.runner else some host.sandbox

def workOutcome : Except Bytes DockerTaskResult → WorkOutcome
  | .ok result => .returned result
  | .error what => .threwException what

def executeJob (job : Job) (late : Bool) : JobRecord σ × Bench σ :=
  match (job.program around.toEngine pool).runFrom (bench.host job.place) with
  | (ended, host) =>
    let result := (workOutcome ended).result
    let threw := ended matches .error _
    ({ job := job
       before := bench
       fate := .executed late
       calls := host.calls
       threw := threw
       result := if late then lateResult result else result },
      bench.store job.place threw host)

def attend (job : Job) : JobRecord σ × Bench σ :=
  match around.fate bench.world job with
  | (.executed late, world) => executeJob around pool { bench with world := world } job late
  | (.expired, world) =>
    ({ job := job
       before := { bench with world := world }
       fate := .expired
       result := lateResult expiredBeforeExecution },
      { bench with world := world })
  | (.refused, world) =>
    ({ job := job
       before := { bench with world := world }
       fate := .refused
       result := submissionRefused },
      { bench with world := world })

variable {bench}

def conduct : Coroutine Job → Bench σ → Run σ
  | .done result, _ => ⟨result, []⟩
  | .time continuation, bench =>
    let (now, world) := around.time bench.world
    conduct (continuation now) { bench with world := world }
  | .await _ none continuation, bench => conduct (continuation executorUnavailable) bench
  | .await _ (some job) continuation, bench =>
    let (record, after) := attend around pool bench job
    let rest := conduct (continuation record.result) after
    ⟨rest.result, record :: rest.records⟩

theorem conduct_await (timeoutMs : Int) (job : Job)
    (continuation : DockerTaskResult → Coroutine Job) (bench : Bench σ) :
    conduct around pool (.await timeoutMs (some job) continuation) bench =
      { result := (conduct around pool (continuation (attend around pool bench job).1.result)
          (attend around pool bench job).2).result
        records := (attend around pool bench job).1 ::
          (conduct around pool (continuation (attend around pool bench job).1.result)
            (attend around pool bench job).2).records } := rfl

variable {bench : Bench σ} {record : JobRecord σ} {kind : Job → Prop}
    {continuation : DockerTaskResult → Coroutine Job} {timeoutMs : Int} {job : Job}
    {coroutine : Coroutine Job}

theorem mem_records_await :
    record ∈ (conduct around pool (.await timeoutMs (some job) continuation) bench).records ↔
      record = (attend around pool bench job).1 ∨
        record ∈ (conduct around pool (continuation (attend around pool bench job).1.result)
          (attend around pool bench job).2).records := by
  rw [conduct_await, List.mem_cons]

theorem attend_job (bench : Bench σ) (job : Job) : (attend around pool bench job).1.job = job := by
  unfold attend
  split
  · rfl
  · rfl
  · rfl

def AllJobs (kind : Job → Prop) : Coroutine Job → Prop
  | .done _ => True
  | .time continuation => ∀ now, AllJobs kind (continuation now)
  | .await _ none continuation => ∀ result, AllJobs kind (continuation result)
  | .await _ (some job) continuation => kind job ∧ ∀ result, AllJobs kind (continuation result)

theorem allJobs_await (here : kind job) (rest : ∀ result, AllJobs kind (continuation result)) :
    AllJobs kind (.await timeoutMs (some job) continuation) := ⟨here, rest⟩

theorem allJobs_errorResult (kind : Job → Prop) (status : SubmissionStatus) :
    AllJobs kind (errorResult status) := fun _ => trivial

theorem allJobs_finishRun (destroys : kind .destroyRunner) (resp : JudgeResult) :
    AllJobs kind (finishRun resp) := ⟨destroys, fun _ _ => trivial⟩

theorem allJobs_compileFailed (reads : kind .readCompileError) (destroys : kind .destroyCompile) :
    AllJobs kind compileFailed :=
  ⟨reads, fun _ _ => ⟨destroys, fun _ => trivial⟩⟩

theorem AllJobs.of_mem (all : AllJobs kind coroutine)
    (member : record ∈ (conduct around pool coroutine bench).records) : kind record.job := by
  induction coroutine generalizing bench with
  | done => cases member
  | time continuation ih => exact ih _ (all _) member
  | await timeoutMs work continuation ih =>
    cases work with
    | none => exact ih _ (all _) member
    | some =>
      rcases (mem_records_await around pool).mp member with rfl | later
      · rw [attend_job]
        exact all.1
      · exact ih _ (all.2 _) later

section Walk

variable {request : JudgeTaskMessage} {tests : List TestCase} {Φ : Coroutine Job → Prop}

/-- The jobs of a run that comes to its test loop. -/
def Job.Prepares (request : JudgeTaskMessage) : Job → Prop
  | .writeSource code => code = request.code
  | .readCompileError | .writeInput .. | .run .. | .readOutput _ | .destroyRunner => False
  | _ => True

theorem runPhase_induct (error : Φ (errorResult .systemError))
    (await : ∀ {timeoutMs job continuation}, job.Prepares request →
      (∀ result, Φ (continuation result)) → Φ (.await timeoutMs (some job) continuation))
    (loop : Φ (judgeTests request finishRun 0 tests (initialResult tests))) (exeContent : Bytes) :
    Φ (runPhase request tests exeContent) := by
  refine await trivial fun acquireResult => ?_
  split
  · exact error
  refine await trivial fun writeResult => ?_
  split
  · exact error
  refine await trivial fun chmodResult => ?_
  split
  · exact error
  · exact loop

theorem judgerRun_induct (error : Φ (errorResult .systemError)) (failed : Φ compileFailed)
    (await : ∀ {timeoutMs job continuation}, job.Prepares request → job.place = .compileSandbox →
      (∀ result, Φ (continuation result)) → Φ (.await timeoutMs (some job) continuation))
    (run : ∀ exeContent, Φ (runPhase request tests exeContent)) : Φ (judgerRun request tests) := by
  refine await trivial rfl fun createResult => ?_
  split
  · exact error
  refine await trivial rfl fun startResult => ?_
  split
  · exact error
  refine await rfl rfl fun writeResult => ?_
  split
  · exact error
  refine await trivial rfl fun compileResult => ?_
  split
  · exact failed
  refine await trivial rfl fun readResult => ?_
  split
  · exact error
  · exact await trivial rfl fun _ => run _

end Walk

def judge (request : JudgeTaskMessage) (tests : List TestCase) (world : σ) : Run σ :=
  conduct around pool (judgerRun request tests) { world := world }

end Runs

def Run.status {σ : Type} (run : Run σ) (cancelled : Bool) : SubmissionStatus :=
  if cancelled then .cancelled
  else
    match run.result with
    | some result => result.status
    | none => .systemError

end OnlineJudge.Judger
