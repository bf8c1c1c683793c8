import OnlineJudge.Sandbox.Frame
import OnlineJudge.Judger.TestLoop

/-!
# The verdict and the container

`Exec` kills the container of a program that runs past its time or writes too much; the input of
the next test cannot be written then, also by a daemon that does what it is told (`Reliable`).
-/

namespace OnlineJudge.Judger

open EventLoop Sandbox Delivery Program

variable {σ : Type} {around : Surroundings σ} {pool : Option SandboxConfig}

/-! ## Docker -/

section Docker

variable {engine : Engine σ}

/-- Docker creates an `exec`, starts it, and reports exit code `0`; nothing is written to the
standard output, and all this takes less than five seconds. -/
def WritesFile (engine : Engine σ) (world : σ) (containerId : Bytes) (path : SandboxPath)
    (content : Bytes) : Prop :=
  ∃ created createdWorld execId started startedWorld,
    engine.respond world (.createExec containerId (.writeFile path content)) 5000 =
      (.performed created, createdWorld) ∧
    responseId engine.json (created.response callOutputLimit) = .ok (some execId) ∧
    engine.respond createdWorld (.startExec execId (.writeFile path content)) 5000 =
      (.performed started, startedWorld) ∧
    started.code = .ok ∧ successStatus started.httpStatus = true ∧ started.pieces = [] ∧
    created.elapsedMs + started.elapsedMs < 5000 ∧
    ∀ timeoutMs, ∃ inspected inspectedWorld,
      engine.respond startedWorld (.inspectExec execId (.writeFile path content)) timeoutMs =
        (.performed inspected, inspectedWorld) ∧
      (inspected.response callOutputLimit).ok = true ∧
      readInspect engine.json (inspected.response callOutputLimit).body = .ok (.exited 0)

/-- Docker reports the exit code `0` of an `exec`. -/
def Reports (engine : Engine σ) (world : σ) (execId : Bytes) (command : Command) : Prop :=
  ∀ timeoutMs, ∃ inspected inspectedWorld,
    engine.respond world (.inspectExec execId command) timeoutMs =
      (.performed inspected, inspectedWorld) ∧
    (inspected.response callOutputLimit).ok = true ∧
    readInspect engine.json (inspected.response callOutputLimit).body = .ok (.exited 0)

variable {outcome : Outcome} {host : Host σ} {world : σ} {command : Command}
    {execId content : Bytes} {path : SandboxPath}

theorem ensures_performed {request : Request} {timeoutMs : Int} {outputLimit : Nat}
    {normal : ApiResponse → Host σ → Prop} {exceptional : Bytes → Host σ → Prop}
    (responded : engine.respond host.world request (max 1 timeoutMs) =
      (.performed outcome, world))
    (returns : normal (outcome.response outputLimit)
      (host.performed world outcome.elapsedMs request (outcome.response outputLimit))) :
    Ensures (dockerApiCall engine request timeoutMs outputLimit) host normal exceptional := by
  unfold dockerApiCall
  refine ensures_get ?_
  rw [responded]
  exact ensures_set (ensures_pure returns)

theorem response_of_silent (outputLimit : Nat) (fine : outcome.code = .ok)
    (success : successStatus outcome.httpStatus = true) (silent : outcome.pieces = []) :
    (outcome.response outputLimit).ok = true ∧
      (outcome.response outputLimit).timedOut = false ∧
      (outcome.response outputLimit).outputLimited = false := by
  simp [Outcome.response, Outcome.result, Sandbox.receive, fine, success, silent]

theorem awaitExit_exited {deadline : Nat} {result : ExecResult} (early : host.clock < deadline)
    (inspects : Reports engine host.world execId command) :
    Ensures (awaitExit engine command execId deadline result (deadline - host.clock)) host
      (fun ended _ => ended.exitCode = 0) (fun _ _ => False) := by
  obtain ⟨fuel, enough⟩ : ∃ fuel, deadline - host.clock = fuel + 1 :=
    ⟨deadline - host.clock - 1, by omega⟩
  rw [enough]
  unfold awaitExit
  refine ensures_get ?_
  rw [if_neg (Nat.not_le.mpr early)]
  obtain ⟨inspected, inspectedWorld, responded, ok, exited⟩ := inspects
    (max 1 (min 2000 (max 1 ((deadline - host.clock : Nat) : Int))))
  refine ensures_bind (ensures_performed responded ?_)
  rw [if_neg (by simp [ok]), exited]
  exact ensures_pure rfl

theorem execCreated_exited {startedAt : Nat} {started : Outcome} {startedWorld : σ}
    (starts : engine.respond host.world (.startExec execId command) 5000 =
      (.performed started, startedWorld))
    (fine : started.code = .ok) (success : successStatus started.httpStatus = true)
    (silent : started.pieces = []) (prompt : host.clock + started.elapsedMs < startedAt + 5000)
    (inspects : Reports engine startedWorld execId command) :
    Ensures (execCreated engine command 5000 startedAt execId) host
      (fun ended _ => ended.exitCode = 0) (fun _ _ => False) := by
  obtain ⟨ok, inTime, whole⟩ :=
    response_of_silent host.sandbox.config.outputLimitBytes fine success silent
  unfold execCreated
  refine ensures_get (ensures_bind (ensures_performed starts ?_))
  rw [if_neg (by simp [inTime, whole]), if_neg (by simp [ok])]
  refine ensures_get (ensures_bind ((awaitExit_exited prompt inspects).imp ?_ fun _ _ => id))
  intro ended after exited
  exact exited

theorem writeFile_of_writes (named : host.sandbox.containerId ≠ [])
    (writes : WritesFile engine host.world host.sandbox.containerId path content) :
    Ensures (writeFile engine path content) host (fun rc _ => rc = 0) (fun _ _ => False) := by
  obtain ⟨created, createdWorld, execId, started, startedWorld, creates, idOf, starts, fine,
    success, silent, prompt, inspects⟩ := writes
  have executes : Ensures (exec engine (.writeFile path content) 5000) host
      (fun ended _ => ended.exitCode = 0) (fun _ _ => False) := by
    unfold exec
    refine ensures_get ?_
    rw [if_neg named]
    refine ensures_bind (ensures_performed creates ?_)
    rw [idOf]
    refine execCreated_exited starts fine success silent ?_ inspects
    show host.clock + created.elapsedMs + started.elapsedMs < host.clock + 5000
    omega
  unfold writeFile
  refine ensures_get ?_
  rw [if_neg named]
  refine ensures_bind (executes.imp ?_ fun _ _ => id)
  intro ended after exited
  rw [if_pos exited]
  exact ensures_pure rfl

theorem writeFile_of_refuses (refuses : engine.respond host.world
      (.createExec host.sandbox.containerId (.writeFile path content)) 5000 =
        (.performed outcome, world))
    (failed : successStatus outcome.httpStatus = false) :
    Ensures (writeFile engine path content) host (fun rc _ => rc = -1) (fun _ _ => False) := by
  unfold writeFile
  refine ensures_get ?_
  split
  · exact ensures_pure rfl
  case isFalse named =>
    have executes : Ensures (exec engine (.writeFile path content) 5000) host
        (fun ended _ => ended.exitCode = -1) (fun _ _ => False) := by
      unfold exec
      refine ensures_get ?_
      rw [if_neg named]
      refine ensures_bind (ensures_performed refuses ?_)
      have noId : responseId engine.json (outcome.response callOutputLimit) = .ok none := by
        simp [responseId, Outcome.response, failed]
      rw [noId]
      exact ensures_pure rfl
    refine ensures_bind (executes.imp ?_ fun _ _ => id)
    intro ended after unknown
    rw [if_neg (by rw [unknown]; decide)]
    exact ensures_modify (ensures_pure rfl)

end Docker

/-! ## A reliable daemon -/

structure Reliable (around : Surroundings σ) where
  running : σ → Bytes → Bool
  starts : ∀ world containerId timeoutMs outcome after,
    around.respond world (.start containerId) timeoutMs = (.performed outcome, after) →
      (outcome.response callOutputLimit).ok = true → running after containerId = true
  kills : ∀ world containerId timeoutMs, ∃ outcome after,
    around.respond world (.kill containerId) timeoutMs = (.performed outcome, after) ∧
      running after containerId = false
  keeps : ∀ world request timeoutMs containerId, request.within containerId = true →
    request.kills = false → running (around.respond world request timeoutMs).2 containerId =
      running world containerId
  fate_keeps : ∀ world job, running (around.fate world job).2 = running world
  writes : ∀ world containerId input, running world containerId = true →
    WritesFile around.toEngine world containerId .input input
  prompt : ∀ world position input,
    (around.fate world (.writeInput position input)).1 = .executed false
  refuses : ∀ world containerId input, running world containerId = false →
    ∃ outcome after, around.respond world (.createExec containerId (.writeFile .input input))
      5000 = (.performed outcome, after) ∧ successStatus outcome.httpStatus = false

def Tracks (running : σ → Bytes → Bool) (host after : Host σ) : Prop :=
  after.sandbox.containerId = host.sandbox.containerId ∧
    ∃ calls, after.calls = calls ++ host.calls ∧
      running after.world host.sandbox.containerId =
        (running host.world host.sandbox.containerId &&
          !calls.any fun call => call.request.kills)

theorem tracks_of_calls {running : σ → Bytes → Bool} {host after : Host σ}
    (container : after.sandbox.containerId = host.sandbox.containerId)
    (calls : after.calls = host.calls) (world : after.world = host.world) :
    Tracks running host after := ⟨container, [], calls, by simp [world]⟩

variable (reliable : Reliable around)

theorem Reliable.frame : Frame around.toEngine (Tracks reliable.running) where
  refl host := tracks_of_calls rfl rfl rfl
  trans := by
    rintro first second third ⟨same, calls, appended, runs⟩ ⟨same', calls', appended', runs'⟩
    refine ⟨same'.trans same, calls' ++ calls, ?_, ?_⟩
    · rw [appended', appended, List.append_assoc]
    · rw [same] at runs'
      rw [runs', runs, List.any_append, Bool.not_or, Bool.and_assoc, Bool.and_comm (!_)]
  call := by
    intro host request timeoutMs outputLimit within
    cases kills : request.kills with
    | true =>
      obtain ⟨containerId, rfl⟩ := Request.exists_of_kills kills
      obtain rfl : containerId = host.sandbox.containerId := by
        simpa [Request.within] using within
      obtain ⟨outcome, after, responded, stopped⟩ :=
        reliable.kills host.world host.sandbox.containerId (max 1 timeoutMs)
      have tracks : Tracks reliable.running host (host.performed after outcome.elapsedMs
          (.kill host.sandbox.containerId) (outcome.response outputLimit)) :=
        ⟨rfl, [_], rfl, by simpa [Request.kills, Host.performed] using stopped⟩
      exact ensures_performed responded tracks
    | false =>
      have kept := reliable.keeps host.world request (max 1 timeoutMs) _ within kills
      unfold dockerApiCall
      refine keeps_get ?_
      -- whatever becomes of the call, the container runs as before
      split
      case h_1 what world responded =>
        rw [responded] at kept
        exact ensures_set (ensures_throw ⟨rfl, [], rfl, by simpa using kept⟩)
      case h_2 world responded =>
        rw [responded] at kept
        exact ensures_set (ensures_pure ⟨rfl, [_], rfl, by simpa [kills] using kept⟩)
      case h_3 outcome world responded =>
        rw [responded] at kept
        exact ensures_set (ensures_pure
          ⟨rfl, [_], rfl, by simpa [kills, Host.performed] using kept⟩)
  clock host clock := tracks_of_calls rfl rfl rfl
  lastError host lastError := tracks_of_calls rfl rfl rfl

/-! ## The jobs in the runner -/

variable {relation : Host σ → Host σ → Prop} {engine : Engine σ}

theorem runTest_keeps (frame : Frame engine relation) (test : TestCase) (timeLimitMs : UInt32)
    (host : Host σ) :
    Keeps relation (runTest engine test timeLimitMs) host := by
  refine keeps_get ?_
  refine frame.seq (frame.exec _ _ host) fun executed after => keeps_get ?_
  have rest : ∀ (result : Nat → DockerTaskResult) (host : Host σ),
      Keeps relation (do return result (← memoryPeakBytes engine)) host := fun _ host =>
    frame.seq (frame.memoryPeakBytes host) fun _ _ => frame.ret
  simp only
  split
  · exact frame.seq (frame.wasOomKilled after) fun _ after => rest _ after
  · exact frame.seq (keeps_pure frame.refl false) fun _ after => rest _ after

variable {job : Job} {killed : Bool} {bench : Bench σ}

theorem program_keeps (frame : Frame engine relation) (inRunner : job.place = .runnerSandbox)
    (stays : job ≠ .destroyRunner) (host : Host σ) :
    Keeps relation (job.program engine pool) host := by
  cases job with
  | writeExecutable | writeInput => exact frame.seq (frame.writeFile _ _ host) fun _ _ => frame.ret
  | chmod => exact frame.seq (frame.exec _ _ host) fun _ _ => frame.ret
  | run position test timeLimitMs => exact runTest_keeps frame test timeLimitMs host
  | readOutput => exact frame.seq (frame.readFile _ host) fun _ _ => frame.ret
  | destroyRunner => exact absurd rfl stays
  | _ => cases inRunner

def JobRecord.kills (record : JobRecord σ) : Bool :=
  record.calls.any fun call => call.request.kills

open JobRecord

/-- There is a runner, and `killed` says whether its container was killed. -/
def RunnerIs (killed : Bool) (bench : Bench σ) : Prop :=
  ∃ sandbox, bench.runner = some sandbox ∧ sandbox.containerId ≠ [] ∧
    reliable.running bench.world sandbox.containerId = !killed

theorem runnerIs_executeJob {reliable : Reliable around} (inRunner : job.place = .runnerSandbox)
    (stays : job ≠ .destroyRunner) (runner : RunnerIs reliable killed bench) (late : Bool) :
    RunnerIs reliable (killed || (executeJob around pool bench job late).1.kills)
      (executeJob around pool bench job late).2 := by
  obtain ⟨sandbox, found, named, runs⟩ := runner
  have host : (bench.host job.place).sandbox = sandbox := by
    simp [Bench.host, Bench.sandboxAt, inRunner, found]
  unfold executeJob
  cases ran : (job.program around.toEngine pool).runFrom (bench.host job.place) with
  | mk ended after =>
    obtain ⟨same, calls, appended, runsAfter⟩ :=
      (program_keeps reliable.frame inRunner stays _).of_run ran
    rw [host] at same runsAfter
    refine ⟨after.sandbox, by simp [Bench.store, inRunner], by rwa [same], ?_⟩
    have all : after.calls = calls := by simpa [Bench.host] using appended
    simp only [Bench.store, kills, all, same, runsAfter, Bool.not_or]
    exact congrArg (· && _) runs

/-- **Whether the runner was killed is known from the calls**, whatever becomes of
the job. -/
theorem runnerIs_attend {reliable : Reliable around} (inRunner : job.place = .runnerSandbox)
    (stays : job ≠ .destroyRunner) (runner : RunnerIs reliable killed bench) :
    RunnerIs reliable (killed || (attend around pool bench job).1.kills)
      (attend around pool bench job).2 := by
  obtain ⟨sandbox, found, named, runs⟩ := runner
  have kept := reliable.fate_keeps bench.world job
  unfold attend
  split
  case h_1 late world decided =>
    rw [decided] at kept
    have runner : RunnerIs reliable killed { bench with world := world } :=
      ⟨sandbox, found, named, by rw [← runs, ← kept]⟩
    exact runnerIs_executeJob inRunner stays runner late
  case h_2 world decided =>
    rw [decided] at kept
    exact ⟨sandbox, found, named, by simpa [kills, kept] using runs⟩
  case h_3 world decided =>
    rw [decided] at kept
    exact ⟨sandbox, found, named, by simpa [kills, kept] using runs⟩

theorem executeJob_result (post : DockerTaskResult → Prop)
    (ensures : Ensures (job.program around.toEngine pool) (bench.host job.place)
      (fun result _ => post result) (fun _ _ => False)) :
    post (executeJob around pool bench job false).1.result := by
  obtain ⟨result, after, ran, holds⟩ := ensures.exists_ok
  unfold executeJob
  rw [ran]
  exact holds

theorem writeInput_ok_iff {reliable : Reliable around} (runner : RunnerIs reliable killed bench)
    (position : Nat) (input : Bytes) :
    (attend around pool bench (.writeInput position input)).1.result.status = .ok ↔
      killed = false := by
  obtain ⟨sandbox, found, named, runs⟩ := runner
  have kept := reliable.fate_keeps bench.world (.writeInput position input)
  have prompt := reliable.prompt bench.world position input
  unfold attend
  split
  case h_2 world decided => rw [decided] at prompt; cases prompt
  case h_3 world decided => rw [decided] at prompt; cases prompt
  case h_1 late world decided =>
    rw [decided] at kept prompt
    obtain rfl : late = false := by simpa using prompt
    have container : ((({ bench with world := world } : Bench σ)).host
        (Job.writeInput position input).place).sandbox.containerId = sandbox.containerId := by
      simp [Bench.host, Bench.sandboxAt, Job.place, found]
    have runs : reliable.running world sandbox.containerId = !killed := by rw [← runs, ← kept]
    cases killed with
    | false =>
      refine iff_of_true (executeJob_result (fun result => result.status = .ok) ?_) rfl
      have writes := reliable.writes world sandbox.containerId input runs
      rw [← container] at named writes
      refine ensures_bind ((writeFile_of_writes named writes).imp ?_ fun _ _ => id)
      rintro rc after rfl
      exact ensures_pure rfl
    | true =>
      refine iff_of_false (executeJob_result (fun result => result.status ≠ .ok) ?_) (by simp)
      obtain ⟨outcome, after, refused, failed⟩ :=
        reliable.refuses world sandbox.containerId input runs
      rw [← container] at refused
      refine ensures_bind ((writeFile_of_refuses refused failed).imp ?_ fun _ _ => id)
      rintro rc after rfl
      exact ensures_pure (by simp [codeResult])

theorem acquireRunner_started {host : Host σ} (fresh : host.sandbox.containerId = []) :
    Ensures (Job.acquireRunner.program engine pool) host
      (fun result after => result.status = .ok → after.sandbox.containerId ≠ [] ∧
        ∃ created, StartedBy engine created after)
      (fun _ _ => True) := by
  have named : ∀ after : Host σ,
      (codeResult (if after.sandbox.containerId = [] then -1 else 0)).status = .ok →
        after.sandbox.containerId ≠ [] := by
    intro after ok none
    rw [if_pos none] at ok
    cases ok
  cases pool with
  | none => exact ensures_get (ensures_pure fun ok => absurd fresh (named host ok))
  | some config =>
    refine ensures_bind ((acquire_spec config fresh).imp ?_ fun _ _ => id)
    intro _ after acquired
    exact ensures_get (ensures_pure fun ok => ⟨named after ok, (acquired (named after ok)).2⟩)

theorem runnerIs_acquired {reliable : Reliable around}
    (acquired : (attend around pool bench .acquireRunner).1.result.status = .ok) :
    RunnerIs reliable false (attend around pool bench .acquireRunner).2 := by
  have succeeds : Job.acquireRunner.Succeeds
      (attend around pool bench .acquireRunner).1.result := acquired
  obtain ⟨world, late, result, host, ran, attended, after⟩ := attend_succeeds succeeds
  rw [attended] at succeeds
  obtain ⟨named, created, same, response, answered, ok⟩ :=
    (acquireRunner_started rfl).of_ok ran succeeds.of_late
  obtain ⟨outcome, responded, rfl⟩ := answered.performed (by simp [ApiResponse.streamed, ok])
  refine ⟨host.sandbox, by rw [after]; rfl, named, ?_⟩
  rw [after, same]
  exact reliable.starts _ _ _ _ _ responded ok

/-! ## Runs -/

def JobRecord.killsRunner (record : JobRecord σ) : Bool :=
  decide (record.job.place = .runnerSandbox) && record.kills

def NoWriteAfterKill (records : List (JobRecord σ)) : Prop :=
  records.Pairwise fun earlier later => later.job.writesInput = true → earlier.killsRunner = false

def NoWrite (records : List (JobRecord σ)) : Prop :=
  ∀ record ∈ records, record.job.writesInput = false

theorem noWriteAfterKill_cons {record : JobRecord σ} {records : List (JobRecord σ)} :
    NoWriteAfterKill (record :: records) ↔
      (record.killsRunner = true → NoWrite records) ∧ NoWriteAfterKill records := by
  unfold NoWriteAfterKill NoWrite
  rw [List.pairwise_cons]
  refine and_congr_left fun _ => ?_
  constructor
  · intro unkilled kills later member
    by_contra writes
    have spared := unkilled later member (by simpa using writes)
    rw [kills] at spared
    cases spared
  · intro unwritten later member writes
    by_contra kills
    have quiet := unwritten (by simpa using kills) later member
    rw [writes] at quiet
    cases quiet

def TracksKills (pool : Option SandboxConfig) (coroutine : Coroutine Job) : Prop :=
  ∀ bench killed, RunnerIs reliable killed bench →
    (Written (conduct around pool coroutine bench).records ↔
      (killed = true → NoWrite (conduct around pool coroutine bench).records) ∧
        NoWriteAfterKill (conduct around pool coroutine bench).records)

section Runs

variable {reliable : Reliable around} {records : List (JobRecord σ)}

theorem written_of_noWrite (quiet : NoWrite records) :
    Written records ∧ NoWriteAfterKill records := by
  constructor
  · intro record member writes
    rw [quiet record member] at writes
    cases writes
  · refine List.pairwise_of_forall_mem_list fun earlier _ later member writes => ?_
    rw [quiet later member] at writes
    cases writes

abbrev WritesNothing (coroutine : Coroutine Job) : Prop :=
  AllJobs (fun job => job.writesInput = false) coroutine

variable {coroutine : Coroutine Job} {job : Job} {continuation : DockerTaskResult → Coroutine Job}
    {timeoutMs : Int}

theorem noWrite_of_writesNothing (quiet : WritesNothing coroutine) (bench : Bench σ) :
    NoWrite (conduct around pool coroutine bench).records := fun _ member =>
  AllJobs.of_mem around pool quiet member

theorem tracksKills_of_writesNothing (quiet : WritesNothing coroutine) :
    TracksKills reliable pool coroutine := by
  intro bench killed _
  have none : NoWrite (conduct around pool coroutine bench).records :=
    noWrite_of_writesNothing quiet bench
  have ⟨written, unkilled⟩ := written_of_noWrite none
  exact iff_of_true written ⟨fun _ => none, unkilled⟩

theorem noWrite_cons {record : JobRecord σ} :
    NoWrite (record :: records) ↔ record.job.writesInput = false ∧ NoWrite records :=
  List.forall_mem_cons

theorem killsRunner_attend {bench : Bench σ} (inRunner : job.place = .runnerSandbox) :
    (attend around pool bench job).1.killsRunner = (attend around pool bench job).1.kills := by
  simp [killsRunner, attend_job, inRunner]

theorem tracksKills_await (inRunner : job.place = .runnerSandbox) (stays : job ≠ .destroyRunner)
    (other : job.writesInput = false)
    (rest : ∀ result, TracksKills reliable pool (continuation result)) :
    TracksKills reliable pool (.await timeoutMs (some job) continuation) := by
  intro bench killed runner
  have after : RunnerIs reliable (killed || (attend around pool bench job).1.kills)
      (attend around pool bench job).2 := runnerIs_attend inRunner stays runner
  have tracked := rest (attend around pool bench job).1.result _ _ after
  rw [written_await, tracked, conduct_await, noWrite_cons, noWriteAfterKill_cons, attend_job,
    killsRunner_attend inRunner, other]
  -- what was killed before and what this job kills count alike for the rest
  cases killed with
  | true => simp +contextual
  | false => simp

theorem tracksKills_input {position : Nat} {input : Bytes}
    (rest : ∀ result, result.status = .ok → TracksKills reliable pool (continuation result)) :
    TracksKills reliable pool
      (.await timeoutMs (some (.writeInput position input)) continuation) := by
  intro bench killed runner
  have ok : (attend around pool bench (.writeInput position input)).1.result.status = .ok ↔
      killed = false := writeInput_ok_iff runner position input
  have after : RunnerIs reliable
      (killed || (attend around pool bench (.writeInput position input)).1.kills)
      (attend around pool bench (.writeInput position input)).2 :=
    runnerIs_attend rfl (by simp) runner
  rw [written_await, ok, conduct_await, noWrite_cons, noWriteAfterKill_cons, attend_job,
    killsRunner_attend rfl]
  cases killed with
  | true => simp [Job.writesInput]
  | false =>
    have tracked := rest _ (ok.mpr rfl) _ _ after
    rw [tracked]
    simp

theorem tracksKills_judgeTests (request : JudgeTaskMessage) (tests : List TestCase) (position : Nat)
    (resp : JudgeResult) :
    TracksKills reliable pool (judgeTests request finishRun position tests resp) := by
  induction tests generalizing position resp with
  | nil =>
    have quiet : WritesNothing (finishRun resp) := allJobs_finishRun (by rfl) resp
    exact tracksKills_of_writesNothing quiet
  | cons test tests ih =>
    refine tracksKills_input fun writeResult ok => ?_
    rw [if_neg (not_not.mpr ok)]
    refine tracksKills_await rfl (by simp) rfl fun runResult => ?_
    simp only
    split
    · exact ih _ _
    split
    · exact ih _ _
    · exact tracksKills_await rfl (by simp) rfl fun readResult => ih _ _

def WrittenIffUnkilled (around : Surroundings σ) (pool : Option SandboxConfig)
    (coroutine : Coroutine Job) : Prop :=
  ∀ bench, Written (conduct around pool coroutine bench).records ↔
    NoWriteAfterKill (conduct around pool coroutine bench).records

theorem writtenIffUnkilled_of_writesNothing (quiet : WritesNothing coroutine) :
    WrittenIffUnkilled around pool coroutine := by
  intro bench
  have none : NoWrite (conduct around pool coroutine bench).records :=
    noWrite_of_writesNothing quiet bench
  exact iff_of_true (written_of_noWrite none).1 (written_of_noWrite none).2

theorem writtenIffUnkilled_await (outside : job.place ≠ .runnerSandbox)
    (other : job.writesInput = false)
    (rest : ∀ bench,
      (Written (conduct around pool (continuation (attend around pool bench job).1.result)
          (attend around pool bench job).2).records ↔
        NoWriteAfterKill (conduct around pool
          (continuation (attend around pool bench job).1.result)
          (attend around pool bench job).2).records)) :
    WrittenIffUnkilled around pool (.await timeoutMs (some job) continuation) := by
  intro bench
  have spares : (attend around pool bench job).1.killsRunner = false := by
    simp [killsRunner, attend_job, outside]
  rw [written_await, rest bench, conduct_await, noWriteAfterKill_cons, spares, other]
  simp

theorem TracksKills.writtenIff {bench : Bench σ} (tracks : TracksKills reliable pool coroutine)
    (runner : RunnerIs reliable false bench) :
    Written (conduct around pool coroutine bench).records ↔
      NoWriteAfterKill (conduct around pool coroutine bench).records := by
  rw [tracks bench false runner]
  simp

theorem writtenIffUnkilled_runPhase (reliable : Reliable around) (request : JudgeTaskMessage)
    (tests : List TestCase) (exeContent : Bytes) :
    WrittenIffUnkilled around pool (runPhase request tests exeContent) := by
  refine writtenIffUnkilled_await (by decide) rfl fun bench => ?_
  split
  · exact writtenIffUnkilled_of_writesNothing (allJobs_errorResult _ _) _
  case isFalse acquired =>
    have runner : RunnerIs reliable false (attend around pool bench .acquireRunner).2 :=
      runnerIs_acquired (not_not.mp acquired)
    refine TracksKills.writtenIff (tracksKills_await rfl (by simp) rfl fun writeResult => ?_) runner
    split
    · exact tracksKills_of_writesNothing (allJobs_errorResult _ _)
    refine tracksKills_await rfl (by simp) rfl fun chmodResult => ?_
    split
    · exact tracksKills_of_writesNothing (allJobs_errorResult _ _)
    · exact tracksKills_judgeTests request tests 0 _

theorem judge_written_iff (reliable : Reliable around) (request : JudgeTaskMessage)
    (tests : List TestCase) (world : σ) :
    Written (judge around pool request tests world).records ↔
      NoWriteAfterKill (judge around pool request tests world).records := by
  have whole : WrittenIffUnkilled around pool (judgerRun request tests) := by
    refine judgerRun_induct (writtenIffUnkilled_of_writesNothing (allJobs_errorResult _ _))
      (writtenIffUnkilled_of_writesNothing (allJobs_compileFailed (by rfl) (by rfl)))
      (fun _ outside rest => ?_) (writtenIffUnkilled_runPhase reliable request tests)
    exact writtenIffUnkilled_await (by simp [outside]) (writesInput_of_outside outside)
      fun _ => rest _ _
  exact whole _

end Runs

/-- **The verdict over the tests.** With a reliable daemon, the verdict is the status of the first
test that is not accepted exactly when no input is written after the runner was killed. -/
theorem verdict_follows_tests_iff (around : Surroundings σ) (reliable : Reliable around)
    (pool : Option SandboxConfig) (request : JudgeTaskMessage) (tests : List TestCase) (world : σ)
    (nonempty : tests ≠ []) (reaches : (judge around pool request tests world).ReachesLoop) :
    (judge around pool request tests world).Follows tests ↔
      NoWriteAfterKill (judge around pool request tests world).records := by
  rw [judge_follows_iff_written request nonempty world reaches]
  exact judge_written_iff reliable request tests world

/-! ## A program that ends, or does not -/

def programReply (ends : Bool) (running : List Bytes) : Request → Outcome × List Bytes
  | .start containerId => ({ httpStatus := 204 }, containerId :: running)
  | .kill containerId | .remove containerId =>
    ({ httpStatus := 204 }, running.filter (· ≠ containerId))
  | .createExec containerId command =>
    (if containerId ∈ running then sampleReply (.createExec containerId command)
      else { httpStatus := 409 }, running)
  | .startExec _ (.run ..) =>
    (if ends then {} else { elapsedMs := 2000, code := .operationTimedout }, running)
  | request => (sampleReply request, running)

def programWorld (ends : Bool) : Surroundings (List Bytes) := sampleWorld (programReply ends)

def programReliable (ends : Bool) : Reliable (programWorld ends) where
  running world containerId := decide (containerId ∈ world)
  starts := by
    rintro world containerId timeoutMs outcome after responded -
    cases responded
    exact decide_eq_true (List.mem_cons_self ..)
  kills world containerId timeoutMs := ⟨_, _, rfl, by simp [programReply]⟩
  keeps := by
    intro world request timeoutMs containerId within kills
    cases request with
    | createExec | inspectExec | inspect => rfl
    | startExec execId command => cases command <;> rfl
    | kill => cases kills
    | _ => cases within
  fate_keeps _ _ := rfl
  writes := by
    intro world containerId input running
    have running : containerId ∈ world := of_decide_eq_true running
    have created : responseId sampleJson (Outcome.response
        { httpStatus := 201, pieces := [createdBody 120] } callOutputLimit) = .ok (some [120]) := by
      decide +kernel
    have exited : readInspect sampleJson (Outcome.response { pieces := [exitedBody] }
        callOutputLimit).body = .ok (.exited 0) := by
      decide +kernel
    refine ⟨{ httpStatus := 201, pieces := [createdBody 120] }, world, [120], {}, world, ?_,
      created, rfl, rfl, rfl, rfl, by decide, ?_⟩
    · simp [programWorld, sampleWorld, programReply, sampleReply, running]
    · exact fun _ => ⟨{ pieces := [exitedBody] }, world, rfl, by decide +kernel, exited⟩
  prompt _ _ _ := rfl
  refuses := by
    intro world containerId input stopped
    have stopped : containerId ∉ world := of_decide_eq_false stopped
    refine ⟨{ httpStatus := 409 }, world, ?_, rfl⟩
    simp [programWorld, sampleWorld, programReply, stopped]

instance (records : List (JobRecord σ)) : Decidable (NoWriteAfterKill records) :=
  inferInstanceAs (Decidable (List.Pairwise _ _))

instance (run : Run σ) : Decidable run.ReachesLoop :=
  inferInstanceAs (Decidable (∃ record ∈ run.records, _))

def Run.statuses (run : Run σ) : Option (SubmissionStatus × List SubmissionStatus) :=
  run.result.map fun result => (result.status, result.testCaseResults.map (·.status))

/-- The program prints `a`, which is the output of the first test only. -/
def twoTests : List TestCase := [{ output := [97] }, { index := 1, output := [98] }]

theorem verdict_follows_tests_of_two :
    (judge (programWorld true) (some {}) sampleRequest twoTests []).statuses =
        some (.wrongAnswer, [.accepted, .wrongAnswer]) ∧
      (judge (programWorld true) (some {}) sampleRequest twoTests []).Follows twoTests :=
  ⟨by decide +kernel,
    (verdict_follows_tests_iff (programWorld true) (programReliable true) (some {}) sampleRequest
      twoTests [] (by decide) (by decide +kernel)).mpr (by decide +kernel)⟩

def endlessRun : Run (List Bytes) :=
  judge (programWorld false) (some {}) sampleRequest twoTests []

/-- The first test exceeds the time limit, and the verdict is `SYSTEM_ERROR`. -/
theorem verdict_overwritten_after_timeout :
    Nonempty (Reliable (programWorld false)) ∧ endlessRun.ReachesLoop ∧
      endlessRun.statuses = some (.systemError, [.timeLimitExceeded]) ∧
      ¬ endlessRun.Follows twoTests := by
  refine ⟨⟨programReliable false⟩, by decide +kernel, by decide +kernel, ?_⟩
  rintro ⟨result, returned, follows⟩
  have differs : (endlessRun.result.map fun result =>
    decide (result.status = firstFailure result.testCaseResults)) = some false := by
    decide +kernel
  rw [returned, Option.map_some, ← follows.first] at differs
  simp at differs

end OnlineJudge.Judger
