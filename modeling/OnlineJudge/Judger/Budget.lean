import OnlineJudge.Delivery.Consumer
import OnlineJudge.EventLoop.Loop
import OnlineJudge.Judger.FileWrites

/-!
# The time that a task is given

`HandleMessage` (`mq_consumer.hpp`) gives a task `15000 + n * (limit + 6000)` milliseconds; the
timeouts in `Judger::Run` (`judger.hpp`) sum up to `66000 + n * (limit + 13000)`.
-/

namespace OnlineJudge.Judger

open EventLoop Sandbox Delivery List

/-! ## Paths of a coroutine -/

inductive Path : Coroutine Job → List (Int × Job) → Prop
  | done (result : Option JudgeResult) : Path (.done result) []
  | time {continuation : Int → Coroutine Job} {path : List (Int × Job)} (now : Int)
      (rest : Path (continuation now) path) : Path (.time continuation) path
  | refused {continuation : DockerTaskResult → Coroutine Job} {path : List (Int × Job)}
      (timeoutMs : Int) (rest : Path (continuation executorUnavailable) path) :
      Path (.await timeoutMs none continuation) path
  | await {continuation : DockerTaskResult → Coroutine Job} {path : List (Int × Job)}
      (timeoutMs : Int) (job : Job) (result : DockerTaskResult)
      (rest : Path (continuation result) path) :
      Path (.await timeoutMs (some job) continuation) ((timeoutMs, job) :: path)

def sumTimeouts (path : List (Int × Job)) : Int := (path.map Prod.fst).sum

@[simp]
theorem sumTimeouts_nil : sumTimeouts [] = 0 := rfl

@[simp]
theorem sumTimeouts_cons (await : Int × Job) (path : List (Int × Job)) :
    sumTimeouts (await :: path) = await.1 + sumTimeouts path := by
  simp [sumTimeouts]

def follow (result : DockerTaskResult) : Coroutine Job → List (Int × Job)
  | .done _ => []
  | .time continuation => follow result (continuation 0)
  | .await _ none continuation => follow result (continuation executorUnavailable)
  | .await timeoutMs (some job) continuation =>
    (timeoutMs, job) :: follow result (continuation result)

theorem path_follow (result : DockerTaskResult) (coroutine : Coroutine Job) :
    Path coroutine (follow result coroutine) := by
  induction coroutine with
  | done answer => exact .done answer
  | time continuation ih => exact .time 0 (ih 0)
  | await timeoutMs work continuation ih =>
    cases work with
    | none => exact .refused timeoutMs (ih _)
    | some job => exact .await timeoutMs job result (ih result)

variable {tests : List TestCase}

def testTimeouts (request : JudgeTaskMessage) : Int :=
  6000 + wallTimeout request.timeLimitMs + 6000

/-! ## The path on which all is well -/

def fineResult : DockerTaskResult where
  status := .ok
  stdoutStr := [48]

def testAwaits (request : JudgeTaskMessage) (position : Nat) (test : TestCase) : List (Int × Job) :=
  [(6000, .writeInput position test.input),
    (wallTimeout request.timeLimitMs, .run position test request.timeLimitMs),
    (6000, .readOutput position)]

def loopAwaits (request : JudgeTaskMessage) : Nat → List TestCase → List (Int × Job)
  | _, [] => [(4000, .destroyRunner)]
  | position, test :: tests =>
    testAwaits request position test ++ loopAwaits request (position + 1) tests

def runAwaits (request : JudgeTaskMessage) (tests : List TestCase) : List (Int × Job) :=
  [(6000, .createCompile), (6000, .startCompile), (6000, .writeSource request.code),
    (10000, .compile (languageStandard request.language)), (6000, .readExecutable),
    (4000, .destroyCompile), (12000, .acquireRunner), (6000, .writeExecutable [48]),
    (6000, .chmod)] ++ loopAwaits request 0 tests

variable (request : JudgeTaskMessage)

section

variable (tests : List TestCase)

theorem follow_judgeTests (position : Nat) (resp : JudgeResult) :
    follow fineResult (judgeTests request finishRun position tests resp) =
      loopAwaits request position tests := by
  induction tests generalizing position resp with
  | nil => rfl
  | cons test tests ih =>
    simp only [judgeTests, follow, fineResult, ne_eq, not_true_eq_false, if_false,
      Bool.false_eq_true]
    rw [loopAwaits, ← ih]
    rfl

theorem follow_judgerRun :
    follow fineResult (judgerRun request tests) = runAwaits request tests := by
  rw [runAwaits, ← follow_judgeTests]
  rfl

theorem path_runAwaits : Path (judgerRun request tests) (runAwaits request tests) :=
  follow_judgerRun request tests ▸ path_follow fineResult (judgerRun request tests)

theorem sum_loopAwaits (position : Nat) :
    sumTimeouts (loopAwaits request position tests) =
      tests.length * testTimeouts request + 4000 := by
  induction tests generalizing position with
  | nil => simp [loopAwaits]
  | cons test tests ih =>
    simp only [loopAwaits, testAwaits, cons_append, nil_append, sumTimeouts_cons, ih]
    rw [length_cons, Int.natCast_succ, Int.add_mul, Int.one_mul]
    unfold testTimeouts
    omega

theorem sum_runAwaits :
    sumTimeouts (runAwaits request tests) = 66000 + tests.length * testTimeouts request := by
  simp only [runAwaits, cons_append, nil_append, sumTimeouts_cons, sum_loopAwaits]
  omega

theorem length_loopAwaits (position : Nat) :
    (loopAwaits request position tests).length = 3 * tests.length + 1 := by
  induction tests generalizing position with
  | nil => rfl
  | cons test tests ih =>
    simp only [loopAwaits, testAwaits, length_append, length_cons, length_nil, ih]
    omega

theorem length_runAwaits : (runAwaits request tests).length = 3 * tests.length + 10 := by
  simp only [runAwaits, length_append, length_cons, length_nil, length_loopAwaits]
  omega

end

theorem mem_loopAwaits_run {index : Nat} {test : TestCase}
    (listed : tests[index]? = some test) (position : Nat) :
    (wallTimeout request.timeLimitMs, Job.run (position + index) test request.timeLimitMs) ∈
      loopAwaits request position tests := by
  induction tests generalizing position index with
  | nil => simp at listed
  | cons first tests ih =>
    cases index with
    | zero =>
      cases listed
      exact mem_append_left _ (by simp [testAwaits])
    | succ =>
      refine mem_append_right _ ?_
      rw [← Nat.add_assoc, Nat.add_right_comm]
      exact ih (by simpa using listed) (position + 1)

variable {await : Int × Job}

theorem positive_of_mem_loopAwaits (positive : 0 < wallTimeout request.timeLimitMs) {position : Nat}
    (mem : await ∈ loopAwaits request position tests) : 0 < await.1 := by
  induction tests generalizing position with
  | nil =>
    cases List.mem_singleton.mp mem
    decide
  | cons test tests ih =>
    rcases List.mem_append.mp mem with here | later
    · simp only [testAwaits, mem_cons, not_mem_nil, or_false] at here
      rcases here with rfl | rfl | rfl
      · simp
      · simpa using positive
      · simp
    · exact ih later

theorem positive_of_mem_runAwaits (positive : 0 < wallTimeout request.timeLimitMs)
    (mem : await ∈ runAwaits request tests) : 0 < await.1 := by
  rcases List.mem_append.mp mem with first | later
  · simp only [mem_cons, not_mem_nil, or_false] at first
    rcases first with rfl | rfl | rfl | rfl | rfl | rfl | rfl | rfl | rfl <;> simp
  · exact positive_of_mem_loopAwaits request positive later

/-! ## The time of a task -/

def pushTimeoutMs : Int := (min (calculatedTimeout request) 3600000 : Nat)

def claimedLeaseMs : Nat := (TaskDelivery.mk [] 0 request none).leaseMs.toNat

def pushedEntry (now : Nat) : PendingEntry Job where
  task := { point := .start (judgerRun request (testsOf request)), cb := true }
  deadline := now + (max 1 (pushTimeoutMs request)).toNat

theorem pushNewTask_entry {n m : Nat} {s t : LoopState Job n m} {taskId : TaskId}
    (running : s.running = true) (accepting : s.acceptingIo = true)
    (absent : s.pendings.contains taskId = false)
    (pushed : pushNewTask s taskId (some (judgerRun request (testsOf request)))
      (pushTimeoutMs request) true = some t) :
    t.pendings[taskId]? = some (pushedEntry request s.now) := by
  simp only [pushNewTask, running, accepting, absent, Bool.not_true, Bool.or_self,
    Bool.false_eq_true, if_false] at pushed
  obtain ⟨-, made⟩ := Option.ite_none_left_eq_some.mp pushed
  cases made
  simp [LoopState.setEntry, LoopState.pushReady, pushedEntry]

def RunsEveryTest (path : List (Int × Job)) : Prop :=
  ∀ position test, (testsOf request)[position]? = some test →
    ∃ timeoutMs, (timeoutMs, Job.run position test request.timeLimitMs) ∈ path

def SumsFit : Prop :=
  ∀ path, Path (judgerRun request (testsOf request)) path → RunsEveryTest request path →
    sumTimeouts path ≤ pushTimeoutMs request

def RunsFit : Prop :=
  ∀ (path : List (Int × Job)) (took : List Nat), Path (judgerRun request (testsOf request)) path →
    List.Forall₂ (fun (await : Int × Job) (ms : Nat) => (ms : Int) < await.1) path took →
    ∀ now, (pushedEntry request now).overdue (now + took.sum) = false ∧
      took.sum ≤ claimedLeaseMs request

section Valid

variable {request}

theorem wallTimeout_of_valid (bounds : TaskBounds request) :
    wallTimeout request.timeLimitMs = request.timeLimitMs.toNat + 1000 := by
  have limit := bounds.timeLimit_le
  have sum : (request.timeLimitMs + 1000).toBitVec.toNat = request.timeLimitMs.toNat + 1000 := by
    rw [UInt32.toNat_toBitVec, UInt32.toNat_add]
    exact Nat.mod_eq_of_lt (by simp only [UInt32.reduceToNat]; omega)
  have signed : wallTimeout request.timeLimitMs = (request.timeLimitMs + 1000).toBitVec.toInt := rfl
  rw [signed, BitVec.toInt_eq_toNat_of_lt (by omega), sum]
  rfl

theorem pushTimeoutMs_le : pushTimeoutMs request ≤ calculatedTimeout request := by
  unfold pushTimeoutMs
  omega

theorem pushTimeoutMs_lt_lease_iff :
    pushTimeoutMs request < claimedLeaseMs request ↔ calculatedTimeout request < 3600000 := by
  unfold pushTimeoutMs claimedLeaseMs TaskDelivery.leaseMs
  simp only
  rw [UInt32.toNat_ofNat_of_lt' (by simp only [UInt32.size]; omega)]
  omega

theorem runsEveryTest_runAwaits : RunsEveryTest request (runAwaits request (testsOf request)) := by
  intro position test listed
  have mem := mem_loopAwaits_run request listed 0
  rw [Nat.zero_add] at mem
  exact ⟨_, mem_append_right _ mem⟩

def lastMoment (path : List (Int × Job)) : List Nat := path.map fun await => await.1.toNat - 1

variable {path : List (Int × Job)}

theorem lastMoment_within (positive : ∀ await ∈ path, 0 < await.1) :
    List.Forall₂ (fun (await : Int × Job) (ms : Nat) => (ms : Int) < await.1) path
      (lastMoment path) := by
  rw [lastMoment, forall₂_map_right_iff, forall₂_same]
  intro await mem
  have := positive await mem
  omega

theorem sum_lastMoment (positive : ∀ await ∈ path, 0 < await.1) :
    ((lastMoment path).sum : Int) = sumTimeouts path - path.length := by
  induction path with
  | nil => rfl
  | cons await path ih =>
    have here := positive await mem_cons_self
    have rest := ih fun other mem => positive other (.tail _ mem)
    simp only [lastMoment, map_cons, sum_cons, sumTimeouts_cons, length_cons] at rest ⊢
    push_cast at rest ⊢
    omega

theorem time_lt_sum_runAwaits (bounds : TaskBounds request) :
    (calculatedTimeout request : Int) + (runAwaits request (testsOf request)).length <
      sumTimeouts (runAwaits request (testsOf request)) := by
  have count : (testsOf request).length = request.testCases.length := length_map _
  have three : testTimeouts request = (request.timeLimitMs.toNat + 6000) + 7000 := by
    rw [testTimeouts, wallTimeout_of_valid bounds]
    omega
  have tests : (request.testCases.length : Int) * testTimeouts request =
      request.testCases.length * (request.timeLimitMs.toNat + 6000) +
        request.testCases.length * 7000 := by
    rw [three, Int.mul_add]
  have time : (calculatedTimeout request : Int) =
      15000 + request.testCases.length * (request.timeLimitMs.toNat + 6000) := by
    rw [calculatedTimeout, Int.natCast_add, Int.natCast_mul, Int.natCast_add]
    rfl
  rw [sum_runAwaits, length_runAwaits, count, tests, time]
  omega

end Valid

/-- **The timing budget.** On some path the timeouts sum up to more than the time of the task, and
some run is cancelled whose operations all finish in time. -/
theorem judge_exceeds_budget (request : JudgeTaskMessage) (valid : validJudgeTask request = true) :
    ¬ SumsFit request ∧
      (pushTimeoutMs request < claimedLeaseMs request ↔ calculatedTimeout request < 3600000) ∧
      ¬ RunsFit request := by
  have bounds := bounds_of_validJudgeTask valid
  have longer := time_lt_sum_runAwaits bounds
  have most : pushTimeoutMs request ≤ calculatedTimeout request := pushTimeoutMs_le
  have path := path_runAwaits request (testsOf request)
  have positive : ∀ await ∈ runAwaits request (testsOf request), 0 < await.1 := by
    refine fun await => positive_of_mem_runAwaits request ?_
    rw [wallTimeout_of_valid bounds]
    omega
  refine ⟨fun fits => ?_, pushTimeoutMs_lt_lease_iff, fun fits => ?_⟩
  · have sum := fits _ path runsEveryTest_runAwaits
    omega
  · have unmarked := (fits _ _ path (lastMoment_within positive) 0).1
    have elapsed := sum_lastMoment positive
    simp only [PendingEntry.overdue, pushedEntry, Bool.not_false, Bool.true_and] at unmarked
    have unswept := of_decide_eq_false unmarked
    have some_time : 0 < calculatedTimeout request := by
      unfold calculatedTimeout
      omega
    omega

theorem judge_exceeds_budget_of_one_test : ¬ SumsFit (taskWithInput [49]) :=
  (judge_exceeds_budget (taskWithInput [49]) (validJudgeTask_taskWithInput (by decide))).1

/-- It gets 22 seconds, and its operations may take 80. -/
theorem timeouts_of_one_test :
    validJudgeTask (taskWithInput [49]) = true ∧
      Path (judgerRun (taskWithInput [49]) (testsOf (taskWithInput [49])))
        (runAwaits (taskWithInput [49]) (testsOf (taskWithInput [49]))) ∧
      sumTimeouts (runAwaits (taskWithInput [49]) (testsOf (taskWithInput [49]))) = 80000 ∧
      pushTimeoutMs (taskWithInput [49]) = 22000 :=
  ⟨validJudgeTask_taskWithInput (by decide), path_runAwaits _ _, by decide +kernel,
    by decide +kernel⟩

end OnlineJudge.Judger
