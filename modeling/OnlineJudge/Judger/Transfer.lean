import OnlineJudge.Judger.Failures

/-!
# Files that are read back

`Judger::Run` reads the executable and the output of every test by `ReadFile`, which returns
whatever standard output `Exec` could parse from the stream, whole or not.
-/

namespace OnlineJudge.Judger

open EventLoop Sandbox Delivery Program List

variable {σ : Type} {around : Surroundings σ} {pool : Option SandboxConfig}

/-! ## Files and streams -/

/-- Docker sends the output of `cat` as a sequence of frames.  What arrives of a
response that `Exec` reads is the beginning of that sequence. -/
structure ServesFiles (engine : Engine σ) where
  frames : σ → Bytes → SandboxPath → List MuxFrame
  fits : ∀ world containerId path, ∀ frame ∈ frames world containerId path,
    frame.payload.length < UInt32.size
  streams : ∀ world containerId path created createdWorld execId started startedWorld outputLimit,
    engine.respond world (.createExec containerId (.cat path)) 5000 =
        (.performed created, createdWorld) →
      responseId engine.json (created.response callOutputLimit) = .ok (some execId) →
      engine.respond createdWorld (.startExec execId (.cat path)) 5000 =
        (.performed started, startedWorld) →
      (started.response outputLimit).streamed = true →
      started.pieces.flatten <+: encodeFrames (frames world containerId path)

def ServesFiles.content {engine : Engine σ} (serves : ServesFiles engine) (world : σ)
    (containerId : Bytes) (path : SandboxPath) : Bytes :=
  stdoutOf (serves.frames world containerId path)

section Reads

variable {engine : Engine σ}

variable {after host : Host σ}

end Reads

/-! ## The jobs that read a file -/

def Job.reads : Job → Option SandboxPath
  | .readExecutable => some .executable
  | .readCompileError => some .compileErr
  | .readOutput _ => some .output
  | _ => none

variable {job : Job} {continuation : DockerTaskResult → Coroutine Job} {timeoutMs : Int}
    {testResult : TestCaseResult} {given : List TestCaseResult} {request : JudgeTaskMessage}
    {path : SandboxPath} {coroutine : Coroutine Job} {records : List (JobRecord σ)}

def JobRecord.frames {engine : Engine σ} (serves : ServesFiles engine) (record : JobRecord σ) :
    List MuxFrame :=
  match record.job.reads with
  | some path =>
    serves.frames record.before.world (record.before.sandboxAt record.job.place).containerId path
  | none => []

def JobRecord.file {engine : Engine σ} (serves : ServesFiles engine) (record : JobRecord σ) :
    Bytes := stdoutOf (record.frames serves)

def Carries (around : Surroundings σ) (pool : Option SandboxConfig) (coroutine : Coroutine Job) :
    Prop :=
  ∀ bench, ∀ record ∈ (conduct around pool coroutine bench).records, ∀ content,
    record.job = .writeExecutable content →
      ∃ read ∈ (conduct around pool coroutine bench).records,
        read.job = .readExecutable ∧ read.result.status = .ok ∧ read.result.stdoutStr = content

section

variable (request : JudgeTaskMessage) (tests : List TestCase)

end

def Backed (records : List (JobRecord σ)) (position : Nat) (testResult : TestCaseResult) : Prop :=
  testResult.status = .accepted → ∃ record ∈ records, record.job = .readOutput position ∧
    normalizeOutput record.result.stdoutStr = normalizeOutput testResult.expectedOutput

theorem Backed.mono {more : List (JobRecord σ)} {position : Nat}
    (backed : Backed records position testResult)
    (within : ∀ record ∈ records, record ∈ more) : Backed more position testResult := by
  intro accepted
  obtain ⟨record, member, facts⟩ := backed accepted
  exact ⟨record, within record member, facts⟩

section

variable (compares : comparesOutput request = true)
include compares

end

/-! ## Whole files -/

def JobRecord.Used (record : JobRecord σ) : Prop :=
  match record.job with
  | .readExecutable => record.result.status = .ok
  | .readOutput _ => True
  | _ => False

theorem JobRecord.Used.reads {record : JobRecord σ} (used : record.Used) :
    ∃ path, record.job.reads = some path := by
  unfold JobRecord.Used at used
  split at used
  case h_1 asked => exact ⟨_, by rw [asked]; rfl⟩
  case h_2 asked => exact ⟨_, by rw [asked]; rfl⟩
  case h_3 => cases used

end OnlineJudge.Judger
