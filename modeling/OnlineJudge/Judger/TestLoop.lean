import OnlineJudge.Judger.Failures

/-!
# The test loop

The test loop of `Judger::Run` keeps the status of the first test that is not accepted, but the
branch for an input that cannot be written replaces it by `SYSTEM_ERROR`.
-/

namespace OnlineJudge.Judger

open EventLoop Sandbox Delivery Program TestCase List

variable {σ : Type} {around : Surroundings σ} {pool : Option SandboxConfig}

/-! ## What the verdict should be -/

def firstFailure (results : List TestCaseResult) : SubmissionStatus :=
  match results.find? fun result => result.status ≠ .accepted with
  | some result => result.status
  | none => .accepted

def TestCase.label (test : TestCase) : Nat × Bytes × Bytes :=
  (test.index.toNat, test.input, test.output)

def resultLabel (result : TestCaseResult) : Nat × Bytes × Bytes :=
  (result.index, result.input, result.expectedOutput)

/-- The tests are recorded in order, the verdict is the status of the first one that is not
accepted, and `ACCEPTED` means that all of them were run and accepted. -/
structure FollowsTests (tests : List TestCase) (result : JudgeResult) : Prop where
  inOrder : result.testCaseResults.map resultLabel <+: tests.map label
  first : result.status = firstFailure result.testCaseResults
  accepted : result.status = .accepted →
    result.testCaseResults.map resultLabel = tests.map label ∧
      ∀ testResult ∈ result.testCaseResults, testResult.status = .accepted

def Run.Follows (tests : List TestCase) (run : Run σ) : Prop :=
  ∃ result, run.result = some result ∧ FollowsTests tests result

theorem firstFailure_append (results : List TestCaseResult) (last : TestCaseResult) :
    firstFailure (results ++ [last]) =
      if firstFailure results = .accepted ∧ last.status ≠ .accepted then last.status
      else firstFailure results := by
  unfold firstFailure
  rw [find?_append]
  cases found : results.find? fun result => decide (result.status ≠ .accepted) with
  | some result =>
    have failed : result.status ≠ .accepted := by simpa using find?_some found
    simp [failed]
  | none =>
    by_cases accepted : last.status = .accepted
    · simp [accepted]
    · simp [accepted]

theorem accepted_of_firstFailure {results : List TestCaseResult}
    (none : firstFailure results = .accepted) : ∀ result ∈ results, result.status = .accepted := by
  intro result member
  by_contra failed
  unfold firstFailure at none
  split at none
  case h_1 found => exact absurd none (by simpa using find?_some found)
  case h_2 absent =>
    have passes := find?_eq_none.mp absent result member
    simp [failed] at passes

/-! ## The loop -/

/-- What holds of the response between two rounds of the test loop, when the tests
in `done` have been judged. -/
structure Judged (done : List TestCase) (resp : JudgeResult) : Prop where
  labels : resp.testCaseResults.map resultLabel = done.map label
  first : resp.status = firstFailure resp.testCaseResults
  blames : ∀ result ∈ resp.testCaseResults, result.status ≠ .systemError

variable {done : List TestCase} {resp result : JudgeResult} {timeoutMs : Int} {bench : Bench σ}
    {job : Job} {continuation : DockerTaskResult → Coroutine Job}

theorem Judged.record {test : TestCase} {testResult : TestCaseResult} (judged : Judged done resp)
    (label : resultLabel testResult = test.label) (blames : testResult.status ≠ .systemError) :
    Judged (done ++ [test]) (recordTest resp testResult) where
  labels := by simp [recordTest, judged.labels, label]
  first := by
    simp only [recordTest]
    rw [firstFailure_append, ← judged.first]
  blames := by
    intro result member
    rcases mem_append.mp member with earlier | last
    · exact judged.blames result earlier
    · rw [mem_singleton.mp last]
      exact blames

variable {tests : List TestCase}

theorem Judged.follows (judged : Judged tests resp) (completedAt : Int) :
    FollowsTests tests { resp with completedAt := completedAt } where
  inOrder := judged.labels ▸ prefix_rfl
  first := judged.first
  accepted := by
    intro accepted
    exact ⟨judged.labels, accepted_of_firstFailure (judged.first ▸ accepted)⟩

theorem Judged.not_systemError (judged : Judged done resp) :
    firstFailure resp.testCaseResults ≠ .systemError := by
  unfold firstFailure
  split
  case h_1 found => exact judged.blames _ (mem_of_find?_eq_some found)
  case h_2 => simp

def Job.writesInput : Job → Bool
  | .writeInput .. => true
  | _ => false

theorem writesInput_of_outside (outside : job.place = .compileSandbox) :
    job.writesInput = false := by
  cases job with
  | writeInput => cases outside
  | _ => rfl

def Written (records : List (JobRecord σ)) : Prop :=
  ∀ record ∈ records, record.job.writesInput = true → record.result.status = .ok

theorem written_await :
    Written (conduct around pool (.await timeoutMs (some job) continuation) bench).records ↔
      (job.writesInput = true → (attend around pool bench job).1.result.status = .ok) ∧
        Written (conduct around pool (continuation (attend around pool bench job).1.result)
          (attend around pool bench job).2).records := by
  constructor
  · intro written
    constructor
    · intro writes
      refine written _ ((mem_records_await around pool).mpr (.inl rfl)) ?_
      rw [attend_job]
      exact writes
    · intro record member
      exact written record ((mem_records_await around pool).mpr (.inr member))
  · rintro ⟨first, rest⟩ record member writes
    rcases (mem_records_await around pool).mp member with rfl | later
    · rw [attend_job] at writes
      exact first writes
    · exact rest record later writes

def FollowsIffWritten (around : Surroundings σ) (pool : Option SandboxConfig)
    (tests : List TestCase) (coroutine : Coroutine Job) : Prop :=
  ∀ bench, (conduct around pool coroutine bench).Follows tests ↔
    Written (conduct around pool coroutine bench).records

theorem follows_iff_await (other : job.writesInput = false)
    (rest : (conduct around pool (continuation (attend around pool bench job).1.result)
        (attend around pool bench job).2).Follows tests ↔
      Written (conduct around pool (continuation (attend around pool bench job).1.result)
        (attend around pool bench job).2).records) :
    (conduct around pool (.await timeoutMs (some job) continuation) bench).Follows tests ↔
      Written (conduct around pool (.await timeoutMs (some job) continuation) bench).records := by
  rw [written_await]
  constructor
  · intro follows
    refine ⟨fun writes => ?_, rest.mp follows⟩
    rw [other] at writes
    cases writes
  · rintro ⟨-, written⟩
    exact rest.mpr written

theorem followsIffWritten_await (other : job.writesInput = false)
    (rest : ∀ result, FollowsIffWritten around pool tests (continuation result)) :
    FollowsIffWritten around pool tests (.await timeoutMs (some job) continuation) :=
  fun _ => follows_iff_await other (rest _ _)

theorem followsIffWritten_input {position : Nat} {input : Bytes}
    (rest : ∀ result, result.status = .ok →
      FollowsIffWritten around pool tests (continuation result))
    (failed : ∀ result, result.status ≠ .ok → ∀ bench,
      ¬ (conduct around pool (continuation result) bench).Follows tests) :
    FollowsIffWritten around pool tests
      (.await timeoutMs (some (.writeInput position input)) continuation) := by
  intro bench
  rw [written_await]
  constructor
  · intro follows
    have ok : (attend around pool bench (.writeInput position input)).1.result.status = .ok := by
      by_contra notOk
      exact failed _ notOk _ follows
    exact ⟨fun _ => ok, (rest _ ok _).mp follows⟩
  · rintro ⟨first, written⟩
    exact (rest _ (first rfl) _).mpr written

theorem followsIffWritten_finishRun (judged : Judged tests resp) :
    FollowsIffWritten around pool tests (finishRun resp) := by
  intro bench
  constructor
  · intro _ record member writes
    -- the only job left destroys the runner
    rcases (mem_records_await around pool).mp member with rfl | later
    · rw [attend_job] at writes
      cases writes
    · cases later
  · intro _
    exact ⟨_, rfl, judged.follows _⟩

theorem mapStatus_ne_systemError (status : TaskStatus) :
    mapStatusToSubmissionStatus status ≠ .systemError := by
  cases status <;> simp [mapStatusToSubmissionStatus]

theorem outputStatus_ne_systemError (request : JudgeTaskMessage) (test : TestCase)
    (userOutput : Bytes) : outputStatus request test userOutput ≠ .systemError := by
  unfold outputStatus
  split
  · simp
  · simp

/-- **The verdict follows the tests exactly when every input was written**, from any
round of the loop on. -/
theorem judgeTests_follows_iff (request : JudgeTaskMessage) (tests done : List TestCase)
    (position : Nat) (judged : Judged done resp) :
    FollowsIffWritten around pool (done ++ tests)
      (judgeTests request finishRun position tests resp) := by
  induction tests generalizing done position resp with
  | nil =>
    rw [append_nil]
    exact followsIffWritten_finishRun judged
  | cons test tests ih =>
    -- whatever status this round records, the next one starts from a judged response
    have next : ∀ {testResult : TestCaseResult}, resultLabel testResult = test.label →
        testResult.status ≠ .systemError →
        FollowsIffWritten around pool (done ++ test :: tests)
          (judgeTests request finishRun (position + 1) tests (recordTest resp testResult)) := by
      intro testResult label blames
      rw [append_cons]
      exact ih (done ++ [test]) (position + 1) (judged.record label blames)
    refine followsIffWritten_input ?_ ?_
    · intro writeResult ok
      rw [if_neg (not_not.mpr ok)]
      refine followsIffWritten_await rfl fun runResult => ?_
      simp only
      split
      · exact next rfl (by simp)
      split
      · exact next rfl (mapStatus_ne_systemError _)
      · refine followsIffWritten_await rfl fun readResult => ?_
        exact next rfl (outputStatus_ne_systemError request test _)
    · intro writeResult notOk bench
      rw [if_pos notOk]
      rintro ⟨result, returned, follows⟩
      cases returned
      exact judged.not_systemError follows.first.symm

/-! ## The way to the loop -/

def Run.ReachesLoop (run : Run σ) : Prop :=
  ∃ record ∈ run.records, record.job = .chmod ∧ record.result.status = .ok

theorem reachesLoop_await
    (reaches : (conduct around pool (.await timeoutMs (some job) continuation) bench).ReachesLoop) :
    (job = .chmod ∧ (attend around pool bench job).1.result.status = .ok) ∨
      (conduct around pool (continuation (attend around pool bench job).1.result)
        (attend around pool bench job).2).ReachesLoop := by
  obtain ⟨record, member, isChmod, ok⟩ := reaches
  rcases (mem_records_await around pool).mp member with rfl | later
  · rw [attend_job] at isChmod
    exact .inl ⟨isChmod, ok⟩
  · exact .inr ⟨record, later, isChmod, ok⟩

def FollowsOnceReached (around : Surroundings σ) (pool : Option SandboxConfig)
    (tests : List TestCase) (coroutine : Coroutine Job) : Prop :=
  ∀ bench, (conduct around pool coroutine bench).ReachesLoop →
    ((conduct around pool coroutine bench).Follows tests ↔
      Written (conduct around pool coroutine bench).records)

section Phases

variable {tests : List TestCase}

theorem followsOnceReached_done (result : Option JudgeResult) :
    FollowsOnceReached around pool tests (.done result) := by
  rintro bench ⟨record, member, -⟩
  cases member

theorem followsOnceReached_time {continuation : Int → Coroutine Job}
    (rest : ∀ now, FollowsOnceReached around pool tests (continuation now)) :
    FollowsOnceReached around pool tests (.time continuation) := fun _ => rest _ _

theorem followsOnceReached_await {timeoutMs : Int} {job : Job}
    {continuation : DockerTaskResult → Coroutine Job} (other : job.writesInput = false)
    (before : job ≠ .chmod)
    (rest : ∀ result, FollowsOnceReached around pool tests (continuation result)) :
    FollowsOnceReached around pool tests (.await timeoutMs (some job) continuation) := by
  intro bench reaches
  rcases reachesLoop_await reaches with ⟨isChmod, -⟩ | later
  · exact absurd isChmod before
  · exact follows_iff_await other (rest _ _ later)

theorem followsOnceReached_errorResult (status : SubmissionStatus) :
    FollowsOnceReached around pool tests (errorResult status) :=
  followsOnceReached_time fun _ => followsOnceReached_done _

theorem followsOnceReached_compileFailed : FollowsOnceReached around pool tests compileFailed := by
  refine followsOnceReached_await rfl (by simp) fun _ => followsOnceReached_time fun _ => ?_
  exact followsOnceReached_await rfl (by simp) fun _ => followsOnceReached_done _

section

variable (request : JudgeTaskMessage) (nonempty : tests ≠ [])
include nonempty

theorem followsOnceReached_chmod :
    FollowsOnceReached around pool tests (.await 6000 (some .chmod) fun chmodResult =>
      if chmodResult.status ≠ .ok then errorResult .systemError
      else judgeTests request finishRun 0 tests (initialResult tests)) := by
  have judged : Judged [] (initialResult tests) := by
    refine ⟨rfl, ?_, nofun⟩
    simp [initialResult, nonempty, firstFailure]
  have loop : FollowsIffWritten around pool ([] ++ tests) _ :=
    judgeTests_follows_iff request tests [] 0 judged
  intro bench reaches
  have ok : (attend around pool bench .chmod).1.result.status = .ok := by
    by_contra notOk
    rcases reachesLoop_await reaches with ⟨-, ok⟩ | later
    · exact notOk ok
    rw [if_pos notOk] at later
    obtain ⟨record, member, -⟩ := later
    cases member
  refine follows_iff_await rfl ?_
  rw [if_neg (not_not.mpr ok)]
  exact loop _

theorem followsOnceReached_runPhase (exeContent : Bytes) :
    FollowsOnceReached around pool tests (runPhase request tests exeContent) := by
  refine followsOnceReached_await rfl (by simp) fun acquireResult => ?_
  split
  · exact followsOnceReached_errorResult _
  refine followsOnceReached_await rfl (by simp) fun writeResult => ?_
  split
  · exact followsOnceReached_errorResult _
  exact followsOnceReached_chmod request nonempty

theorem judge_follows_iff_written (world : σ)
    (reaches : (judge around pool request tests world).ReachesLoop) :
    (judge around pool request tests world).Follows tests ↔
      Written (judge around pool request tests world).records := by
  have whole : FollowsOnceReached around pool tests (judgerRun request tests) := by
    refine judgerRun_induct (followsOnceReached_errorResult _) followsOnceReached_compileFailed
      (fun _ outside => followsOnceReached_await (writesInput_of_outside outside) ?_)
      (followsOnceReached_runPhase request nonempty)
    rintro rfl
    cases outside
  exact whole _ reaches

end

end Phases

/-! ## The texts of the tests -/

def testsOf (request : JudgeTaskMessage) : List TestCase :=
  request.testCases.map fun item =>
    { testCaseId := item.testCaseId
      index := item.index
      input := item.input
      output := item.expectedOutput
      cpuLimit := max 1 (request.timeLimitMs / 1000).toInt32.toInt
      memLimit := max 1 request.memoryLimitMb.toInt32.toInt }

variable (tests : List TestCase)

def RecordsTests (result : JudgeResult) : Prop :=
  result.testCaseResults.map resultLabel <+: tests.map label

theorem recordsTests_nil {tests : List TestCase}
    (none : result.testCaseResults = []) : RecordsTests tests result := by
  rw [RecordsTests, none]
  exact nil_prefix

def AllResults (kind : JudgeResult → Prop) : Coroutine Job → Prop
  | .done result => ∀ returned ∈ result, kind returned
  | .time continuation => ∀ now, AllResults kind (continuation now)
  | .await _ _ continuation => ∀ result, AllResults kind (continuation result)

variable {kind : JudgeResult → Prop}

theorem AllResults.of_conduct {coroutine : Coroutine Job} (all : AllResults kind coroutine)
    (returned : (conduct around pool coroutine bench).result = some result) : kind result := by
  induction coroutine generalizing bench with
  | done => exact all result returned
  | time continuation ih => exact ih _ (all _) returned
  | await timeoutMs work continuation ih =>
    cases work with
    | none | some => exact ih _ (all _) returned

theorem allResults_await {work : Option Job}
    (rest : ∀ result, AllResults kind (continuation result)) :
    AllResults kind (.await timeoutMs work continuation) := rest

theorem allResults_errorResult (status : SubmissionStatus) :
    AllResults (RecordsTests tests) (errorResult status) := by
  rintro now _ ⟨⟩
  exact recordsTests_nil rfl

theorem allResults_compileFailed : AllResults (RecordsTests tests) compileFailed := by
  rintro readResult now destroyed _ ⟨⟩
  exact recordsTests_nil rfl

theorem allResults_finishRun (recorded : resp.testCaseResults.map resultLabel = done.map label)
    (tests : List TestCase) : AllResults (RecordsTests (done ++ tests)) (finishRun resp) := by
  rintro destroyed now _ ⟨⟩
  rw [RecordsTests, map_append, recorded]
  exact prefix_append _ _

theorem allResults_judgeTests (request : JudgeTaskMessage) (done tests : List TestCase)
    (position : Nat) (resp : JudgeResult)
    (recorded : resp.testCaseResults.map resultLabel = done.map label) :
    AllResults (RecordsTests (done ++ tests))
      (judgeTests request finishRun position tests resp) := by
  induction tests generalizing done position resp with
  | nil => exact allResults_finishRun recorded []
  | cons test tests ih =>
    have next {testResult : TestCaseResult} (label : resultLabel testResult = test.label) :
        AllResults (RecordsTests (done ++ test :: tests))
          (judgeTests request finishRun (position + 1) tests (recordTest resp testResult)) := by
      rw [append_cons]
      refine ih (done ++ [test]) (position + 1) _ ?_
      simp [recordTest, recorded, label]
    refine allResults_await fun writeResult => ?_
    split
    · refine allResults_finishRun ?_ (test :: tests)
      exact recorded
    refine allResults_await fun runResult => ?_
    simp only
    split
    · exact next rfl
    split
    · exact next rfl
    · exact allResults_await fun readResult => next rfl

theorem recordsTests_of_judge {request : JudgeTaskMessage} {tests : List TestCase} {world : σ}
    (returned : (judge around pool request tests world).result = some result) :
    RecordsTests tests result := by
  have error := allResults_errorResult tests .systemError
  have all : AllResults (RecordsTests tests) (judgerRun request tests) :=
    judgerRun_induct error (allResults_compileFailed tests) (fun _ _ => allResults_await)
      (runPhase_induct error (fun _ => allResults_await)
        (allResults_judgeTests request [] tests 0 (initialResult tests) rfl))
  exact all.of_conduct returned

end OnlineJudge.Judger
