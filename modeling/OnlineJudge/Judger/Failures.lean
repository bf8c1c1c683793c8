import OnlineJudge.Sandbox.Calls
import OnlineJudge.Judger.Run

/-!
# Infrastructure failures

Where `Judger::Run` prepares a container or moves a file, it looks at the result and gives up;
`Destroy` has no result, and the run goes on (`verdict_after_failed_removal`).
-/

namespace OnlineJudge.Judger

open EventLoop Sandbox Delivery Program

variable {σ : Type} {around : Surroundings σ} {pool : Option SandboxConfig}

/-! ## Failed jobs -/

def Job.guarded : Job → Bool
  | .createCompile | .startCompile | .writeSource _ | .readExecutable | .acquireRunner
  | .writeExecutable _ | .chmod | .writeInput .. => true
  | .compile _ | .readCompileError | .destroyCompile | .run .. | .readOutput _
  | .destroyRunner => false

/-- The call makes its job fail.  `ReadFile` has no use for the exit code, so only
the creation and the start of its `exec` count. -/
def Job.failsBy (json : JsonCpp) (job : Job) (call : ApiCall) : Bool :=
  match job with
  | .readExecutable =>
    match call.request with
    | .createExec .. => call.failed json
    | .startExec .. => !call.response.streamed
    | _ => false
  | _ => call.failed json

def JobRecord.Failed (json : JsonCpp) (record : JobRecord σ) : Prop :=
  record.fate = .expired ∨ record.fate = .refused ∨ record.threw = true ∨
    ∃ call ∈ record.calls, record.job.failsBy json call = true

instance (json : JsonCpp) (record : JobRecord σ) : Decidable (record.Failed json) :=
  inferInstanceAs (Decidable (_ ∨ _ ∨ _ ∨ ∃ call ∈ record.calls, _))

def Job.Succeeds (job : Job) (result : DockerTaskResult) : Prop :=
  match job with
  | .createCompile => result.stdoutStr ≠ []
  | _ => result.status = .ok

variable {job : Job} {timeoutMs : Int} {continuation : DockerTaskResult → Coroutine Job}

theorem Job.Succeeds.of_late {late : Bool} {result : DockerTaskResult}
    (succeeds : job.Succeeds (if late then lateResult result else result)) :
    job.Succeeds result := by
  cases late with
  | false => exact succeeds
  | true =>
    cases job with
    | createCompile => exact succeeds
    | _ => cases succeeds

theorem attend_succeeds {bench : Bench σ}
    (succeeds : job.Succeeds (attend around pool bench job).1.result) :
    ∃ world late result host,
      (job.program around.toEngine pool).runFrom
        (({ bench with world := world } : Bench σ).host job.place) = (.ok result, host) ∧
      (attend around pool bench job).1 =
        { job := job
          before := { bench with world := world }
          fate := .executed late
          calls := host.calls
          result := if late then lateResult result else result } ∧
      (attend around pool bench job).2 =
        ({ bench with world := world } : Bench σ).store job.place false host := by
  have useless : ∀ result : DockerTaskResult, result.status ≠ .ok → result.stdoutStr = [] →
      ¬ job.Succeeds result := by
    intro result notOk empty succeeds
    cases job with
    | createCompile => exact succeeds empty
    | _ => exact notOk succeeds
  unfold attend at succeeds ⊢
  split at succeeds
  case h_2 => exact absurd succeeds (useless _ (by simp [lateResult]) rfl)
  case h_3 => exact absurd succeeds (useless _ (by simp [submissionRefused]) rfl)
  case h_1 late world decided =>
    unfold executeJob at succeeds ⊢
    cases ran : (job.program around.toEngine pool).runFrom
        (({ bench with world := world } : Bench σ).host job.place) with
    | mk ended host =>
      simp only [ran] at succeeds
      cases ended with
      | ok result => exact ⟨world, late, result, host, ran, rfl, rfl⟩
      | error =>
        exact absurd succeeds.of_late (useless _ (by simp [workOutcome, WorkOutcome.result]) rfl)

/-! ## A job that succeeds has met no failure -/

theorem codeResult_ok {rc : Int} (ok : (codeResult rc).status = .ok) : rc = 0 := by
  by_contra failed
  simp [codeResult, failed] at ok

theorem bytesResult_ok {bytes : Bytes} (ok : (bytesResult bytes).status = .ok) : bytes ≠ [] := by
  rintro rfl
  cases ok

theorem exitCode_of_ok {executed : ExecResult} {compile : Bool}
    (ok : (toDockerTaskResult executed compile).status = .ok) : executed.exitCode = 0 := by
  unfold toDockerTaskResult at ok
  simp only at ok
  split_ifs at ok
  assumption

section Programs

variable {engine : Engine σ}

theorem failsBy_of_read {host after : Host σ} {ended : ExecResult}
    (executed : Executed engine (.cat .executable) 5000 host ended after)
    (some : ended.stdoutStr ≠ []) :
    Only (fun call => Job.readExecutable.failsBy engine.json call = false) host after := by
  rcases executed.output with ⟨response, created, execId, answered, idOf, output⟩ | ⟨none, _⟩
  · obtain ⟨stream, started, answeredStart, streamed, _, waits⟩ := output
    refine .cons answered.recorded ?_ (.cons answeredStart.recorded ?_ (waits.imp ?_))
    · exact fine_of_responseId idOf (.inr ⟨_, _, rfl⟩)
    · simp [Job.failsBy, streamed]
    · intro call waiting
      unfold Job.failsBy
      cases asked : call.request with
      | createExec | startExec => rw [asked] at waiting; cases waiting
      | _ => rfl
  · exact absurd none some

theorem program_spec {job : Job} (guarded : job.guarded = true) {host : Host σ}
    (fresh : job = .createCompile ∨ job = .acquireRunner → host.sandbox.containerId = []) :
    Ensures (job.program engine pool) host
      (fun result after => job.Succeeds result →
        Only (fun call => job.failsBy engine.json call = false) host after)
      (fun _ _ => True) := by
  cases job with
  | createCompile =>
    refine ensures_bind ((create_spec compileConfig (fresh (.inl rfl))).imp ?_ fun _ _ => id)
    rintro id after ⟨-, clean⟩
    exact ensures_pure clean
  | startCompile =>
    refine ensures_bind ((start_spec host).imp ?_ fun _ _ => id)
    intro rc after started
    exact ensures_pure fun ok => (started (codeResult_ok ok)).clean
  | writeSource code =>
    refine ensures_bind ((writeFile_spec .source code host).imp ?_ fun _ _ => id)
    intro rc after clean
    exact ensures_pure fun ok => clean (codeResult_ok ok)
  | writeExecutable content =>
    refine ensures_bind ((writeFile_spec .executable content host).imp ?_ fun _ _ => id)
    intro rc after clean
    exact ensures_pure fun ok => clean (codeResult_ok ok)
  | writeInput position input =>
    refine ensures_bind ((writeFile_spec .input input host).imp ?_ fun _ _ => id)
    intro rc after clean
    exact ensures_pure fun ok => clean (codeResult_ok ok)
  | chmod =>
    refine ensures_bind ((exec_spec .chmod 5000 host).imp ?_ fun _ _ => id)
    intro ended after executed
    refine ensures_pure fun ok => executed.clean ?_
    rw [exitCode_of_ok ok]
    decide
  | readExecutable =>
    refine ensures_bind ((readFile_spec .executable host).imp ?_ fun _ _ => id)
    rintro bytes after ⟨ended, executed, rfl⟩
    exact ensures_pure fun ok => failsBy_of_read executed (bytesResult_ok ok)
  | acquireRunner =>
    have rest : ∀ after : Host σ,
        (after.sandbox.containerId ≠ [] → Clean engine.json host after) →
        Ensures (do return codeResult (if (← get).sandbox.containerId = [] then -1 else 0) :
            SandboxM σ DockerTaskResult) after
          (fun result after => result.status = .ok → Clean engine.json host after)
          (fun _ _ => True) := by
      intro after clean
      refine ensures_get (ensures_pure fun ok => clean fun none => ?_)
      rw [if_pos none] at ok
      cases ok
    cases pool with
    | none => exact rest host fun known => absurd (fresh (.inr rfl)) known
    | some config =>
      refine ensures_bind ((acquire_spec config (fresh (.inr rfl))).imp ?_ fun _ _ => id)
      intro _ after acquired
      exact rest after fun known => (acquired known).1
  | _ => cases guarded

end Programs

/-- **A guarded job that succeeds has met no failure.**  Only the first job of a run
needs its sandbox to be new. -/
theorem not_failed_of_succeeds {bench : Bench σ} (guarded : job.guarded = true)
    (fresh : job = .createCompile → bench.compile.containerId = [])
    (succeeds : job.Succeeds (attend around pool bench job).1.result) :
    ¬ (attend around pool bench job).1.Failed around.json := by
  obtain ⟨world, late, result, host, ran, attended, -⟩ := attend_succeeds succeeds
  rw [attended] at succeeds ⊢
  have fresh : job = .createCompile ∨ job = .acquireRunner →
      (({ bench with world := world } : Bench σ).host job.place).sandbox.containerId = [] := by
    rintro (rfl | rfl)
    · exact fresh rfl
    · rfl
  have only := (program_spec guarded fresh).of_ok ran succeeds.of_late
  rintro (expired | refused | threw | ⟨call, member, fails⟩)
  · cases expired
  · cases refused
  · cases threw
  · have fine := only.of_mem rfl member
    rw [fine] at fails
    cases fails

/-! ## The coroutine gives up -/

def EndsIn (around : Surroundings σ) (pool : Option SandboxConfig) (status : SubmissionStatus)
    (coroutine : Coroutine Job) : Prop :=
  ∀ bench, (conduct around pool coroutine bench).status false = status

/-- A failure at a guarded job makes the coroutine return `SYSTEM_ERROR`. -/
def Guards (around : Surroundings σ) (pool : Option SandboxConfig) (coroutine : Coroutine Job) :
    Prop :=
  ∀ bench, ∀ record ∈ (conduct around pool coroutine bench).records,
    record.job.guarded = true → record.Failed around.json →
      (conduct around pool coroutine bench).status false = .systemError

theorem guards_done (result : Option JudgeResult) : Guards around pool (.done result) := by
  intro bench record member
  cases member

theorem guards_time {continuation : Int → Coroutine Job}
    (rest : ∀ now, Guards around pool (continuation now)) :
    Guards around pool (.time continuation) := fun _ => rest _ _

theorem guards_await (unguarded : job.guarded = false)
    (rest : ∀ result, Guards around pool (continuation result)) :
    Guards around pool (.await timeoutMs (some job) continuation) := by
  intro bench record member guarded failed
  rcases (mem_records_await around pool).mp member with rfl | later
  · rw [attend_job, unguarded] at guarded
    cases guarded
  · exact rest _ _ record later guarded failed

theorem guards_await_guarded (guarded : job.guarded = true) (later : job ≠ .createCompile)
    (givesUp : ∀ result, result.status ≠ .ok →
      EndsIn around pool .systemError (continuation result))
    (rest : ∀ result, Guards around pool (continuation result)) :
    Guards around pool (.await timeoutMs (some job) continuation) := by
  intro bench record member guardedRecord failed
  rcases (mem_records_await around pool).mp member with rfl | later'
  · refine givesUp _ (fun ok => ?_) _
    have succeeds : job.Succeeds (attend around pool bench job).1.result := by
      cases job with
      | createCompile => exact absurd rfl later
      | _ => exact ok
    exact not_failed_of_succeeds guarded (fun first => absurd first later) succeeds failed
  · exact rest _ _ record later' guardedRecord failed

theorem guards_checked (guarded : job.guarded = true) (later : job ≠ .createCompile)
    (rest : ∀ result, Guards around pool (continuation result)) :
    Guards around pool (.await timeoutMs (some job) fun result =>
      if result.status ≠ .ok then errorResult .systemError else continuation result) := by
  refine guards_await_guarded guarded later ?_ fun result => ?_
  · intro result failed
    rw [if_pos failed]
    exact fun _ => rfl
  · split
    · exact guards_time fun _ => guards_done _
    · exact rest result

theorem guards_finishRun (resp : JudgeResult) : Guards around pool (finishRun resp) :=
  guards_await rfl fun _ => guards_time fun _ => guards_done _

theorem guards_compileFailed : Guards around pool compileFailed :=
  guards_await rfl fun _ => guards_time fun _ => guards_await rfl fun _ => guards_done _

section

variable (request : JudgeTaskMessage) (tests : List TestCase)

theorem guards_judgeTests (position : Nat) (resp : JudgeResult) :
    Guards around pool (judgeTests request finishRun position tests resp) := by
  induction tests generalizing position resp with
  | nil => exact guards_finishRun resp
  | cons test tests ih =>
    refine guards_await_guarded rfl (by simp) ?_ fun writeResult => ?_
    · intro writeResult failed
      rw [if_pos failed]
      exact fun _ => rfl
    split
    · exact guards_finishRun _
    refine guards_await rfl fun runResult => ?_
    -- in every branch that follows, the loop goes on with the next test
    simp only
    split
    · exact ih _ _
    split
    · exact ih _ _
    · exact guards_await rfl fun readResult => ih _ _

theorem guards_runPhase (exeContent : Bytes) :
    Guards around pool (runPhase request tests exeContent) := by
  refine guards_checked rfl (by simp) fun _ => ?_
  refine guards_checked rfl (by simp) fun _ => ?_
  refine guards_checked rfl (by simp) fun _ => ?_
  exact guards_judgeTests request tests 0 _

theorem guards_compilePhase : Guards around pool (compilePhase request tests) := by
  refine guards_checked rfl (by simp) fun _ => ?_
  refine guards_checked rfl (by simp) fun _ => ?_
  refine guards_await rfl fun compileResult => ?_
  split
  · exact guards_compileFailed
  refine guards_checked rfl (by simp) fun readResult => ?_
  refine guards_await rfl fun _ => ?_
  exact guards_runPhase request tests readResult.stdoutStr

theorem judge_guards (world : σ) {record : JobRecord σ}
    (member : record ∈ (judge around pool request tests world).records)
    (guarded : record.job.guarded = true) (failed : record.Failed around.json) :
    (judge around pool request tests world).status false = .systemError := by
  unfold judge judgerRun at member ⊢
  -- the first job is the only one whose sandbox is known to be new
  rw [mem_records_await] at member
  rw [conduct_await]
  split at member
  case isTrue none =>
    simp only [if_pos none]
    rfl
  case isFalse created =>
    simp only [if_neg created]
    rcases member with rfl | later
    · have succeeds : Job.createCompile.Succeeds
          (attend around pool { world := world } .createCompile).1.result := created
      exact absurd failed (not_failed_of_succeeds rfl (fun _ => rfl) succeeds)
    · exact guards_compilePhase request tests _ record later guarded failed

end

/-- **An infrastructure failure is not turned into a verdict**: a run that meets one where a
container is prepared or a file is moved ends with `SYSTEM_ERROR` or `CANCELLED`. -/
theorem infrastructure_failure_ends_in_error (around : Surroundings σ) (pool : Option SandboxConfig)
    (request : JudgeTaskMessage) (tests : List TestCase) (world : σ) (cancelled : Bool)
    (record : JobRecord σ) (member : record ∈ (judge around pool request tests world).records)
    (guarded : record.job.guarded = true) (failed : record.Failed around.json) :
    (judge around pool request tests world).status cancelled = .systemError ∨
      (judge around pool request tests world).status cancelled = .cancelled := by
  cases cancelled with
  | false => exact .inl (judge_guards request tests world member guarded failed)
  | true => exact .inr rfl

/-! ## A small world -/

inductive SampleValue
  | created (id : Bytes)
  | exited
  | string (value : Bytes)
  | bool (value : Bool)
  | int (value : Int)

/-- `\x7b"Id":"c"\x7d`, for the letter `c`. -/
def createdBody (c : UInt8) : Bytes := [123, 34, 73, 100, 34, 58, 34, c, 34, 125]

/-- `\x7b"Running":false,"ExitCode":0\x7d`. -/
def exitedBody : Bytes :=
  [123, 34, 82, 117, 110, 110, 105, 110, 103, 34, 58, 102, 97, 108, 115, 101, 44, 34, 69, 120,
    105, 116, 67, 111, 100, 101, 34, 58, 48, 125]

def sampleJson : JsonCpp where
  Value := SampleValue
  parse body :=
    if body = exitedBody then some .exited
    else if body = createdBody 97 then some (.created [97])
    else if body = createdBody 98 then some (.created [98])
    else if body = createdBody 120 then some (.created [120])
    else none
  find value key :=
    match value with
    | .created id => .ok (if key = "Id" then some (.string id) else none)
    | .exited =>
      .ok (if key = "Running" then some (.bool false)
        else if key = "ExitCode" then some (.int 0) else none)
    | _ => .error (text "in Json::Value::find(begin, end): requires objectValue or nullValue")
  asString value :=
    match value with
    | .string value => .ok value
    | _ => .error (text "Type is not convertible to string")
  asBool value :=
    match value with
    | .bool value => .ok value
    | _ => .error (text "Value is not convertible to bool.")
  asInt value :=
    match value with
    | .int value => .ok value
    | _ => .error (text "Value is not convertible to Int.")

def sampleWorld (respond : σ → Request → Outcome × σ) : Surroundings σ where
  respond state request _ := ((.performed (respond state request).1), (respond state request).2)
  json := sampleJson
  fate state _ := (.executed false, state)
  time state := (0, state)

/-- Docker, when nothing goes wrong: containers `a` and `b`, an `exec` `x`, and every file holds
`a`. -/
def sampleReply : Request → Outcome
  | .create config =>
    { httpStatus := 201
      pieces := [createdBody (if config.image = "oj-compiler:latest" then 97 else 98)] }
  | .createExec .. => { httpStatus := 201, pieces := [createdBody 120] }
  | .startExec _ (.cat _) => { pieces := [(MuxFrame.mk 1 [97]).encode] }
  | .startExec _ .memoryPeak => { pieces := [(MuxFrame.mk 1 [49, 10]).encode] }
  | .startExec _ _ | .inspect _ => {}
  | .inspectExec .. => { pieces := [exitedBody] }
  | .start _ | .kill _ | .remove _ => { httpStatus := 204 }

def sampleRequest : JudgeTaskMessage where
  messageId := [7]
  target := some (.submission 5)
  timeLimitMs := 1000

def runnerRefuses : Surroundings Unit :=
  sampleWorld fun _ request =>
    match request with
    | .createExec _ (.writeFile .executable _) => ({ httpStatus := 500 }, ())
    | request => (sampleReply request, ())

def refusedRun : Run Unit := judge runnerRefuses (some {}) sampleRequest [{ output := [97] }] ()

theorem refusedRun_long : 7 < refusedRun.records.length := by decide +kernel

theorem infrastructure_failure_ends_in_error_at_executable :
    (refusedRun.records.get ⟨7, refusedRun_long⟩).job = .writeExecutable [97] ∧
      (refusedRun.status false = .systemError ∨ refusedRun.status false = .cancelled) := by
  refine ⟨by decide +kernel, ?_⟩
  exact infrastructure_failure_ends_in_error runnerRefuses (some {}) sampleRequest
    [{ output := [97] }] () false (refusedRun.records.get ⟨7, refusedRun_long⟩)
    (List.get_mem _ _) (by decide +kernel) (by decide +kernel)

def removalFails : Surroundings Unit :=
  sampleWorld fun _ request =>
    match request with
    | .remove _ => ({ httpStatus := 500 }, ())
    | request => (sampleReply request, ())

def JobRecord.untroubled (json : JsonCpp) (record : JobRecord σ) : Bool :=
  decide (record.fate = .executed false) && !record.threw &&
    record.calls.all (fun call => !call.failed json) && decide (record.result.status = .ok)

def unremovedRun : Run Unit := judge removalFails (some {}) sampleRequest [{ output := [97] }] ()

/-- The removal of the compile container fails, and the submission is accepted. -/
theorem verdict_after_failed_removal :
    (∀ record ∈ unremovedRun.records.take 5, record.untroubled sampleJson = true) ∧
      (∃ record ∈ unremovedRun.records[5]?, record.job = .destroyCompile ∧
        ∃ call ∈ record.calls, call.failed sampleJson = true) ∧
      unremovedRun.status false = .accepted := by
  refine ⟨by decide +kernel, by decide +kernel, by decide +kernel⟩

end OnlineJudge.Judger
