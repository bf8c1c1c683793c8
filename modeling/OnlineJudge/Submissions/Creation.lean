import OnlineJudge.Delivery.Policy
import OnlineJudge.Submissions.TestCases

/-!
# The tasks that the server builds

`CreateSubmission` and `CreateCustomTest` (`oj_service_impl.cpp`) build the message for the judge;
`ToLegacy` (`oj_admin_service_impl.cpp`) makes the question.
-/

namespace OnlineJudge.Submissions

open Admin (isDigits)

open Questions Delivery List

variable {Time : Type}

/-! ## The question -/

/-- `message Question` of `common.proto`, apart from its times. -/
structure QuestionMessage where
  id : Bytes
  title : Bytes
  description : Bytes
  difficulty : Bytes
  timeLimitMs : UInt32
  memoryLimitMb : UInt32
  visible : Bool
  deriving DecidableEq

def QuestionMessage.seconds (input : QuestionMessage) : Nat :=
  (input.timeLimitMs.toNat + 999) / 1000

/-- `ToLegacy`, which fills in `output`. -/
def toLegacy (input : QuestionMessage) (output : Question Time) : Option (Question Time) :=
  if !isDigits input.id || input.title.isEmpty || input.difficulty.isEmpty ||
      input.timeLimitMs = 0 || input.memoryLimitMb = 0 then none
  else if input.seconds > 127 || input.memoryLimitMb.toNat > 2147483647 then none
  else some { output with
    id := input.id
    title := input.title
    desc := input.description
    star := input.difficulty
    cpuLimit := Int8.ofNat input.seconds
    memoryLimit := Int32.ofNat input.memoryLimitMb.toNat
    visible := input.visible }

/-! ## The calls -/

def isSpace (ch : UInt8) : Bool := ch = 32 || (9 ≤ ch && ch ≤ 13)

def trim (s : Bytes) : Bytes := ((s.dropWhile isSpace).reverse.dropWhile isSpace).reverse

def validQuestionId (id : Bytes) : Bool := isValidQuestionId id

def supportedLanguage (language : Bytes) : Bool :=
  [text "cpp", text "cpp17", text "cpp20", text "c++"].contains language

/-- `RandomHex`, where `RAND_bytes` has given `random`. -/
def randomHex (random : Option Bytes) : Bytes :=
  match random with
  | none => []
  | some bytes => toHex bytes

/-- `RandomGuestSubmissionId`, where `RAND_bytes` has given `random`. -/
def randomGuestSubmissionId (random : Option UInt64) : UInt64 :=
  match random with
  | none => 0
  | some value => value ||| ((1 : UInt64) <<< 63)

structure Env (Time : Type) where
  /-- `std::time`. -/
  now : Int
  afterEpoch : 0 < now
  session : Option Int32
  userExists : Bool
  /-- What `ReserveCachedStringByAnyKey` returns. -/
  reserved : Int
  /-- The question for which `GetOneQuestion` returns `true`. -/
  question : Option (Question Time)
  /-- The rows that `GetTestsByQuestionId` finds. -/
  tests : Option (List TestRow)
  messageRandom : Option Bytes
  taskRandom : Option Bytes
  guestRandom : Option UInt64
  /-- `SetCachedStringByAnyKey` succeeds. -/
  cached : Bool
  /-- `PublishTransientTask` succeeds. -/
  published : Bool
  /-- The id of the submission, where the transaction of `CreateSubmissionWithOutbox` commits. -/
  submissionId : Option UInt64
  /-- The transaction of `CreateCustomOutbox` commits. -/
  outbox : Bool

variable (env : Env Time)

/-- `GetSessionUser`, with `GetUserById`. -/
def Env.getSessionUser : Option UInt32 :=
  match env.session with
  | none => none
  | some uid => if uid ≤ 0 then none else if env.userExists then some uid.toUInt32 else none

/-- `CreateSubmissionRequest`, and `CreateCustomTestRequest` with an input. -/
structure CreateRequest where
  questionId : Bytes
  code : Bytes
  language : Bytes
  customInput : Bytes := []
  deriving DecidableEq

def timeLimitOf (question : Question Time) : UInt32 :=
  .ofNat (max 1 question.cpuLimit.toInt * 1000).toNat

def memoryLimitOf (question : Question Time) : UInt32 :=
  .ofNat (max 1 question.memoryLimit.toInt).toNat

variable (request : CreateRequest)

def taskOf (question : Question Time) (userId : UInt32) (testCases : List TestCaseInput)
    (target : Target) : JudgeTaskMessage where
  messageId := randomHex env.messageRandom
  target := some target
  userId
  questionId := trim request.questionId
  code := request.code
  language := trim request.language
  timeLimitMs := timeLimitOf question
  memoryLimitMb := memoryLimitOf question
  testCases
  createdAt := env.now

def testInput (test : TestRow) : TestCaseInput where
  testCaseId := .ofNat test.id.toInt.toNat
  index := .ofNat test.id.toInt.toNat
  input := test.input
  expectedOutput := test.output

/-- `CreateSubmission`, with the message that is published or written to the outbox. -/
def createSubmission : Except Failure JudgeTaskMessage :=
  let user := env.getSessionUser
  if !validQuestionId (trim request.questionId) then .error ⟨400, "INVALID_QUESTION_ID"⟩
  else if request.code.isEmpty || request.code.length > 64 * 1024 then .error ⟨400, "INVALID_CODE"⟩
  else if !supportedLanguage (trim request.language) then .error ⟨400, "UNSUPPORTED_LANGUAGE"⟩
  else if env.reserved = 0 then .error ⟨429, "SUBMISSION_RATE_LIMITED"⟩
  else if env.reserved < 0 then .error ⟨503, "REDIS_ERROR"⟩
  else
    match env.question with
    | none => .error ⟨404, "QUESTION_NOT_FOUND"⟩
    | some question =>
      if !question.visible then .error ⟨404, "QUESTION_NOT_FOUND"⟩
      else
        match env.tests with
        | none => .error ⟨500, "LOAD_TEST_CASES_FAILED"⟩
        | some rows =>
          let task := taskOf env request question (user.getD 0)
            ((getTestsByQuestionId rows).map testInput)
          if (randomHex env.messageRandom).isEmpty || (getTestsByQuestionId rows).isEmpty then
            .error ⟨500, "BUILD_JUDGE_TASK_FAILED"⟩
          else
            match user with
            | none =>
              let submissionId := randomGuestSubmissionId env.guestRandom
              if submissionId = 0 then .error ⟨500, "CSPRNG_FAILED"⟩
              else if !env.cached then .error ⟨503, "REDIS_ERROR"⟩
              else if !env.published then .error ⟨503, "PUBLISH_JUDGE_TASK_FAILED"⟩
              else
                .ok (task (.custom (text "guest-" ++ decimal submissionId.toNat)))
            | some userId =>
              match env.submissionId with
              | some submissionId =>
                if userId = 0 then .error ⟨500, "CREATE_SUBMISSION_FAILED"⟩
                else .ok (task (.submission submissionId))
              | none => .error ⟨500, "CREATE_SUBMISSION_FAILED"⟩

/-- `CreateCustomTest`, with the message that is written to the outbox. -/
def createCustomTest : Except Failure JudgeTaskMessage :=
  match env.getSessionUser with
  | none => .error ⟨401, "UNAUTHORIZED"⟩
  | some userId =>
    if !validQuestionId (trim request.questionId) then .error ⟨400, "INVALID_QUESTION_ID"⟩
    else if request.code.isEmpty || request.code.length > 64 * 1024 then
      .error ⟨400, "INVALID_CODE"⟩
    else if request.customInput.length > 64 * 1024 then .error ⟨400, "CUSTOM_INPUT_TOO_LARGE"⟩
    else if !supportedLanguage (trim request.language) then .error ⟨400, "UNSUPPORTED_LANGUAGE"⟩
    else if env.reserved = 0 then .error ⟨429, "SUBMISSION_RATE_LIMITED"⟩
    else if env.reserved < 0 then .error ⟨503, "REDIS_ERROR"⟩
    else
      match env.question with
      | none => .error ⟨404, "QUESTION_NOT_FOUND"⟩
      | some question =>
        if !question.visible then .error ⟨404, "QUESTION_NOT_FOUND"⟩
        else
          let customTaskId := randomHex env.taskRandom
          let test : TestCaseInput := { index := 1, input := request.customInput }
          if (randomHex env.messageRandom).isEmpty || customTaskId.isEmpty || !env.outbox then
            .error ⟨500, "CREATE_CUSTOM_TASK_FAILED"⟩
          else .ok (taskOf env request question userId [test] (.custom customTaskId))

def guestTaskId (id : UInt64) : Bytes := text "guest-" ++ decimal id.toNat

def answeredId : UInt64 :=
  match env.getSessionUser with
  | none => randomGuestSubmissionId env.guestRandom
  | some _ => env.submissionId.getD 0

def answeredTarget : Target :=
  match env.getSessionUser with
  | none => .custom (guestTaskId (answeredId env))
  | some _ => .submission (answeredId env)

/-! ## What the calls have checked -/

variable {task : JudgeTaskMessage} {request : CreateRequest} {env : Env Time}
    {question : Question Time} {input : QuestionMessage}

theorem passed_of_ok {condition : Prop} [Decidable condition] {failure : Failure}
    {rest : Except Failure JudgeTaskMessage}
    (built : (if condition then .error failure else rest) = .ok task) :
    ¬ condition ∧ rest = .ok task := by
  split at built
  · cases built
  · exact ⟨‹_›, built⟩

theorem code_of_passed {code : Bytes}
    (passed : ¬ (code.isEmpty || decide (code.length > 64 * 1024)) = true) :
    code ≠ [] ∧ code.length ≤ 64 * 1024 := by
  simp only [Bool.or_eq_true, List.isEmpty_iff, decide_eq_true_eq, not_or, Nat.not_lt,
    gt_iff_lt] at passed
  exact passed

/-- `CreateSubmission` has built the task, of the question and the rows that it has found. -/
structure Submitted (env : Env Time) (request : CreateRequest) (question : Question Time)
    (rows : List TestRow) (task : JudgeTaskMessage) : Prop where
  found : env.question = some question
  listed : env.tests = some rows
  questionId : validQuestionId (trim request.questionId) = true
  code : request.code ≠ [] ∧ request.code.length ≤ 64 * 1024
  language : supportedLanguage (trim request.language) = true
  messageId : randomHex env.messageRandom ≠ []
  nonempty : getTestsByQuestionId rows ≠ []
  isTask : task = taskOf env request question (env.getSessionUser.getD 0)
    ((getTestsByQuestionId rows).map testInput) (answeredTarget env)

theorem submitted_of_ok (built : createSubmission env request = .ok task) :
    ∃ question rows, Submitted env request question rows task := by
  unfold createSubmission at built
  obtain ⟨validId, built⟩ := passed_of_ok built
  obtain ⟨validCode, built⟩ := passed_of_ok built
  obtain ⟨validLanguage, built⟩ := passed_of_ok built
  obtain ⟨-, built⟩ := passed_of_ok built
  obtain ⟨-, built⟩ := passed_of_ok built
  split at built
  case h_1 => cases built
  case h_2 question found =>
    obtain ⟨-, built⟩ := passed_of_ok built
    split at built
    case h_1 => cases built
    case h_2 rows listed =>
      obtain ⟨complete, built⟩ := passed_of_ok built
      simp only [Bool.or_eq_true, List.isEmpty_iff, not_or] at complete
      refine ⟨question, rows, found, listed, by simpa using validId, code_of_passed validCode,
        by simpa using validLanguage, complete.1, complete.2, ?_⟩
      cases user : env.getSessionUser with simp only [user] at built
      | none =>
        obtain ⟨-, built⟩ := passed_of_ok built
        obtain ⟨-, built⟩ := passed_of_ok built
        obtain ⟨-, built⟩ := passed_of_ok built
        cases built
        simp only [answeredTarget, answeredId, user]
        rfl
      | some userId =>
        split at built
        case h_1 submissionId numbered =>
          obtain ⟨-, built⟩ := passed_of_ok built
          cases built
          simp only [answeredTarget, answeredId, user, numbered]
          rfl
        case h_2 => cases built

/-- `CreateCustomTest` has built the task, of the question that it has found. -/
structure Testing (env : Env Time) (request : CreateRequest) (question : Question Time)
    (userId : UInt32) (task : JudgeTaskMessage) : Prop where
  found : env.question = some question
  user : env.getSessionUser = some userId
  questionId : validQuestionId (trim request.questionId) = true
  code : request.code ≠ [] ∧ request.code.length ≤ 64 * 1024
  customInput : request.customInput.length ≤ 64 * 1024
  language : supportedLanguage (trim request.language) = true
  messageId : randomHex env.messageRandom ≠ []
  isTask : task = taskOf env request question userId
    [{ index := 1, input := request.customInput }] (.custom (randomHex env.taskRandom))

theorem testing_of_ok (built : createCustomTest env request = .ok task) :
    ∃ question userId, Testing env request question userId task := by
  unfold createCustomTest at built
  split at built
  case h_1 => cases built
  case h_2 userId user =>
    obtain ⟨validId, built⟩ := passed_of_ok built
    obtain ⟨validCode, built⟩ := passed_of_ok built
    obtain ⟨shortInput, built⟩ := passed_of_ok built
    obtain ⟨validLanguage, built⟩ := passed_of_ok built
    obtain ⟨-, built⟩ := passed_of_ok built
    obtain ⟨-, built⟩ := passed_of_ok built
    split at built
    case h_1 => cases built
    case h_2 question found =>
      obtain ⟨-, built⟩ := passed_of_ok built
      obtain ⟨complete, built⟩ := passed_of_ok built
      cases built
      have messageId : randomHex env.messageRandom ≠ [] := by
        intro none
        simp [none] at complete
      exact ⟨question, userId, found, user, by simpa using validId, code_of_passed validCode,
        Nat.not_lt.mp shortInput, by simpa using validLanguage, messageId, rfl⟩

/-! ## What every task has -/

/-- What `ValidJudgeTask` demands, apart from the upper bounds of the limits. -/
structure WellFormed (task : JudgeTaskMessage) : Prop where
  messageId : task.messageId ≠ []
  user : task.userId = 0 → isGuestSubmission task = true
  questionId : task.questionId ≠ []
  code : task.code ≠ [] ∧ task.code.length ≤ 64 * 1024
  language : task.language ≠ []
  timeLimit : task.timeLimitMs ≠ 0
  memoryLimit : task.memoryLimitMb ≠ 0
  testCases : task.testCases ≠ [] ∧ task.testCases.length ≤ 1000
  createdAt : 0 < task.createdAt
  target : task.target ≠ none
  texts : ∀ test ∈ task.testCases,
    test.input.length ≤ 1024 * 1024 ∧ test.expectedOutput.length ≤ 1024 * 1024

theorem WellFormed.valid_iff (wellFormed : WellFormed task) :
    validJudgeTask task = true ↔ task.timeLimitMs ≤ 60000 ∧ task.memoryLimitMb ≤ 4096 := by
  obtain ⟨messageId, user, questionId, code, language, timeLimit, memoryLimit, testCases,
    createdAt, target, texts⟩ := wellFormed
  have noStranger : ¬ (task.userId = 0 ∧ (!isGuestSubmission task) = true) := by
    rintro ⟨zero, notGuest⟩
    rw [user zero] at notGuest
    cases notGuest
  have allFit : (task.testCases.all fun test => !(test.input.length > 1024 * 1024 ||
      test.expectedOutput.length > 1024 * 1024)) = true := by
    simpa using texts
  unfold validJudgeTask
  rw [allFit]
  simp only [messageId, noStranger, questionId, code.1, Nat.not_lt.mpr code.2, language, timeLimit,
    memoryLimit, testCases.1, Nat.not_lt.mpr testCases.2, Int.not_le.mpr createdAt, target,
    false_or, or_false, gt_iff_lt]
  simp

variable (question : Question Time)

theorem toNat_timeLimitOf :
    (timeLimitOf question).toNat = (max 1 question.cpuLimit.toInt * 1000).toNat := by
  have greatest := question.cpuLimit.toInt_lt
  refine UInt32.toNat_ofNat_of_lt' ?_
  simp only [UInt32.size]
  omega

theorem toNat_memoryLimitOf :
    (memoryLimitOf question).toNat = (max 1 question.memoryLimit.toInt).toNat := by
  have greatest := question.memoryLimit.toInt_lt
  refine UInt32.toNat_ofNat_of_lt' ?_
  simp only [UInt32.size]
  omega

theorem timeLimitOf_ne_zero : timeLimitOf question ≠ 0 := by
  intro zero
  have value := toNat_timeLimitOf question
  rw [zero, UInt32.toNat_zero] at value
  omega

theorem memoryLimitOf_ne_zero : memoryLimitOf question ≠ 0 := by
  intro zero
  have value := toNat_memoryLimitOf question
  rw [zero, UInt32.toNat_zero] at value
  omega

variable {question}

theorem ne_nil_of_validQuestionId {id : Bytes} (valid : validQuestionId id = true) : id ≠ [] := by
  rintro rfl
  cases valid

theorem ne_nil_of_supportedLanguage {language : Bytes}
    (supported : supportedLanguage language = true) : language ≠ [] := by
  rintro rfl
  revert supported
  decide +kernel

variable {userId : UInt32} {rows : List TestRow} {blank : Question Time}

theorem getSessionUser_ne_zero (found : env.getSessionUser = some userId) : userId ≠ 0 := by
  unfold Env.getSessionUser at found
  split at found
  · cases found
  rename_i uid _
  obtain ⟨positive, found⟩ := Option.ite_none_left_eq_some.mp found
  split at found
  · cases found
    intro zero
    have same : uid = .ofUInt32 0 := by rw [← zero]
    rw [same] at positive
    exact positive (by decide)
  · cases found

theorem testInputs_of_fits (fits : Fits rows) :
    ((getTestsByQuestionId rows).map testInput).length ≤ 1000 ∧
      ∀ test ∈ (getTestsByQuestionId rows).map testInput,
        test.input.length ≤ 1024 * 1024 ∧ test.expectedOutput.length ≤ 1024 * 1024 := by
  constructor
  · have bound := fits.length_le
    rw [length_map, getTestsByQuestionId, length_insertionSort]
    omega
  · refine forall_mem_map.mpr fun row member => ?_
    have isRow : row ∈ rows := (perm_insertionSort _ rows).mem_iff.mp member
    have input := fits.inputs row isRow
    have output := fits.outputs row isRow
    dsimp only [testInput]
    omega

theorem wellFormed_taskOf {testCases : List TestCaseInput} {target : Target}
    (messageId : randomHex env.messageRandom ≠ [])
    (user : userId = 0 →
      isGuestSubmission (taskOf env request question userId testCases target) = true)
    (questionId : validQuestionId (trim request.questionId) = true)
    (code : request.code ≠ [] ∧ request.code.length ≤ 64 * 1024)
    (language : supportedLanguage (trim request.language) = true)
    (tests : testCases ≠ [] ∧ testCases.length ≤ 1000)
    (texts : ∀ test ∈ testCases,
      test.input.length ≤ 1024 * 1024 ∧ test.expectedOutput.length ≤ 1024 * 1024) :
    WellFormed (taskOf env request question userId testCases target) where
  messageId := messageId
  user := user
  questionId := ne_nil_of_validQuestionId questionId
  code := code
  language := ne_nil_of_supportedLanguage language
  timeLimit := timeLimitOf_ne_zero question
  memoryLimit := memoryLimitOf_ne_zero question
  testCases := tests
  createdAt := env.afterEpoch
  target := Option.some_ne_none target
  texts := texts

structure BuiltFor (question : Question Time) (task : JudgeTaskMessage) : Prop where
  wellFormed : WellFormed task
  timeLimit : task.timeLimitMs = timeLimitOf question
  memoryLimit : task.memoryLimitMb = memoryLimitOf question

theorem builtFor_of_createSubmission (found : env.question = some question)
    (tests : env.tests = some rows) (fits : Fits rows)
    (built : createSubmission env request = .ok task) : BuiltFor question task := by
  obtain ⟨question', rows', built⟩ := submitted_of_ok built
  cases found.symm.trans built.found
  cases tests.symm.trans built.listed
  obtain rfl := built.isTask
  have inputs := testInputs_of_fits fits
  refine ⟨wellFormed_taskOf built.messageId ?_ built.questionId built.code built.language
    ⟨mt map_eq_nil_iff.mp built.nonempty, inputs.1⟩ inputs.2, rfl, rfl⟩
  -- only the task of a guest has no user
  intro zero
  cases user : env.getSessionUser with
  | none =>
    simp only [isGuestSubmission, taskOf, answeredTarget, user]
    exact isPrefixOf_iff_prefix.mpr (prefix_append _ _)
  | some =>
    rw [user] at zero
    exact absurd zero (getSessionUser_ne_zero user)

theorem builtFor_of_createCustomTest (found : env.question = some question)
    (built : createCustomTest env request = .ok task) : BuiltFor question task := by
  obtain ⟨question', userId, built⟩ := testing_of_ok built
  cases found.symm.trans built.found
  obtain rfl := built.isTask
  refine ⟨wellFormed_taskOf built.messageId ?_ built.questionId built.code built.language
    ⟨cons_ne_nil _ _, ?_⟩ ?_, rfl, rfl⟩
  · exact fun zero => absurd zero (getSessionUser_ne_zero built.user)
  · rw [length_singleton]
    omega
  · refine forall_mem_singleton.mpr ⟨?_, Nat.zero_le _⟩
    have short := built.customInput
    dsimp only
    omega

/-! ## The limits -/

theorem limits_of_toLegacy (accepted : toLegacy input blank = some question) :
    0 < input.seconds ∧ question.cpuLimit.toInt = input.seconds ∧
      0 < input.memoryLimitMb.toNat ∧ question.memoryLimit.toInt = input.memoryLimitMb.toNat := by
  unfold toLegacy at accepted
  obtain ⟨given, accepted⟩ := Option.ite_none_left_eq_some.mp accepted
  obtain ⟨bounded, accepted⟩ := Option.ite_none_left_eq_some.mp accepted
  cases accepted
  simp only [Bool.or_eq_true, decide_eq_true_eq, not_or, Nat.not_lt, gt_iff_lt] at given bounded
  have time : input.timeLimitMs.toNat ≠ 0 := fun zero => given.1.2 (UInt32.toNat_inj.mp zero)
  have memory : input.memoryLimitMb.toNat ≠ 0 := fun zero => given.2 (UInt32.toNat_inj.mp zero)
  refine ⟨?_, ?_, Nat.pos_of_ne_zero memory, ?_⟩
  · rw [QuestionMessage.seconds]
    omega
  · exact Int8.toInt_ofNat_of_lt (by omega)
  · exact Int32.toInt_ofNat_of_lt (by omega)

theorem limitsOf_of_toLegacy (accepted : toLegacy input blank = some question)
    {found : Option (Question Time)} {now : Time} {times : Times Time} {q : Question Time}
    (read : q ∈ (savedRow question found now).asRead times) :
    (timeLimitOf q).toNat = input.seconds * 1000 ∧
      (memoryLimitOf q).toNat = input.memoryLimitMb.toNat := by
  obtain ⟨someTime, cpuLimit, someMemory, memoryLimit⟩ := limits_of_toLegacy accepted
  obtain ⟨savedCpu, savedMemory, -⟩ := savedRow_limits question found now
  obtain ⟨_, _, rfl⟩ := Question.exists_times_of_mem_asRead read
  rw [toNat_timeLimitOf, toNat_memoryLimitOf]
  dsimp only
  rw [savedCpu, savedMemory, cpuLimit, memoryLimit]
  omega

theorem bounds_iff {timeLimitMs memoryLimitMb : UInt32}
    (time : timeLimitMs.toNat = input.seconds * 1000)
    (memory : memoryLimitMb.toNat = input.memoryLimitMb.toNat) :
    (timeLimitMs ≤ 60000 ∧ memoryLimitMb ≤ 4096) ↔
      input.timeLimitMs ≤ 60000 ∧ input.memoryLimitMb ≤ 4096 := by
  simp only [UInt32.le_iff_toNat_le, time, memory, QuestionMessage.seconds, UInt32.reduceToNat]
  omega

/-! ## The agreement -/

def AllTasksValid (question : Question Time) (tests : List TestRow) : Prop :=
  ∀ (env : Env Time) (request : CreateRequest) (task : JudgeTaskMessage),
    env.question = some question → env.tests = some tests →
    createSubmission env request = .ok task ∨ createCustomTest env request = .ok task →
    validJudgeTask task = true

def sampleEnv (question : Question Time) (tests : List TestRow) : Env Time where
  now := 1
  afterEpoch := by decide
  session := some 1
  userExists := true
  reserved := 1
  question := some question
  tests := some tests
  messageRandom := some [0]
  taskRandom := some [0]
  guestRandom := none
  cached := true
  published := true
  submissionId := some 1
  outbox := true

def sampleRequest : CreateRequest := ⟨text "1", text "int main() \x7b\x7d", text "cpp", []⟩

theorem exists_task (visible : question.visible = true) (tests : List TestRow) :
    ∃ task, createCustomTest (sampleEnv question tests) sampleRequest = .ok task := by
  have questionId : validQuestionId (trim sampleRequest.questionId) = true := by decide +kernel
  have code : (sampleRequest.code.isEmpty || decide (sampleRequest.code.length > 64 * 1024)) = false
    := by decide +kernel
  have input : ¬ sampleRequest.customInput.length > 64 * 1024 := by decide +kernel
  have language : supportedLanguage (trim sampleRequest.language) = true := by decide +kernel
  unfold createCustomTest
  simp only [questionId, code, input, language, sampleEnv, visible]
  exact ⟨_, rfl⟩

/-- **Agreement.** The judge takes every task that is built for a visible question exactly if its
limits are at most 60 seconds and 4096 megabytes. -/
theorem tasks_valid_iff {column : TextColumn} {input : QuestionMessage}
    {blank question : Question Time} (accepted : toLegacy input blank = some question)
    (visible : question.visible = true) {found : Option (Question Time)} {now : Time}
    {times : Times Time} {q : Question Time} (read : q ∈ (savedRow question found now).asRead times)
    {tests : List TestRow} (stored : Stored column tests) :
    AllTasksValid q tests ↔ input.timeLimitMs ≤ 60000 ∧ input.memoryLimitMb ≤ 4096 := by
  obtain ⟨time, memory⟩ := limitsOf_of_toLegacy accepted read
  have bounds := bounds_iff time memory
  have valid_iff {task : JudgeTaskMessage} (built : BuiltFor q task) :
      validJudgeTask task = true ↔ input.timeLimitMs ≤ 60000 ∧ input.memoryLimitMb ≤ 4096 := by
    rw [built.wellFormed.valid_iff, built.timeLimit, built.memoryLimit, bounds]
  constructor
  -- A question out of bounds is visible, so a custom test can be made for it.
  · intro allValid
    have shown : q.visible = true := by
      rw [Question.visible_of_mem_asRead read, (savedRow_limits question found now).2.2, visible]
    obtain ⟨task, built⟩ := exists_task shown tests
    exact (valid_iff (builtFor_of_createCustomTest rfl built)).mp
      (allValid _ _ task rfl rfl (.inr built))
  · rintro inBounds env request task isQuestion isTests (built | built)
    · exact (valid_iff (builtFor_of_createSubmission isQuestion isTests (fits_of_stored stored)
        built)).mpr inBounds
    · exact (valid_iff (builtFor_of_createCustomTest isQuestion built)).mpr inBounds

/-! ## A question that the judge does not take -/

/-- A `TEXT` column that refuses longer texts. -/
def strictColumn : TextColumn where
  store value := if value.length ≤ 65535 then some value else none
  bounded kept := by
    split at kept
    · cases kept
      assumption
    · cases kept

def sampleMessage (timeLimitMs : UInt32) : QuestionMessage where
  id := text "1"
  title := text "A+B"
  description := text "Add two numbers"
  difficulty := text "easy"
  timeLimitMs
  memoryLimitMb := 64
  visible := true

/-- The question of the message, which `ToLegacy` accepts. -/
def sampleLegacy (cpuLimit : Int8) : Question Unit where
  id := text "1"
  title := text "A+B"
  desc := text "Add two numbers"
  star := text "easy"
  createTime := ()
  updateTime := ()
  cpuLimit
  memoryLimit := 64

def sampleTest : TestCaseMessage where
  questionId := text "1"
  ordinal := 1
  input := text "1 2"
  expectedOutput := text "3"

theorem stored_sample : Stored strictColumn [⟨1, text "1 2", text "3", false⟩] := by
  refine TransitionSystem.Reaches.tail (.refl _) (a := .create sampleTest (some []) []) ?_
  decide +kernel

theorem tasks_valid_iff_second :
    toLegacy (sampleMessage 1000) (sampleLegacy 0) = some (sampleLegacy 1) ∧
      AllTasksValid (sampleLegacy 1) [⟨1, text "1 2", text "3", false⟩] := by
  have accepted : toLegacy (sampleMessage 1000) (sampleLegacy 0) = some (sampleLegacy 1) := by
    decide +kernel
  have read : sampleLegacy 1 ∈
      (savedRow (sampleLegacy 1) none ()).asRead ⟨id, fun _ => 0, fun _ => ()⟩ :=
    mem_cons_self
  exact ⟨accepted, (tasks_valid_iff accepted rfl read stored_sample).mpr (by decide)⟩

def guestEnv : Env Unit :=
  { sampleEnv (sampleLegacy 61) [⟨1, text "1 2", text "3", false⟩] with
    session := none
    guestRandom := some 1 }

/-- The question of 61 seconds can be saved, and the judge refuses the task that is built for
it. -/
theorem long_question_refused :
    toLegacy (sampleMessage 61000) (sampleLegacy 0) = some (sampleLegacy 61) ∧
      Stored strictColumn [⟨1, text "1 2", text "3", false⟩] ∧
      ∃ task, createSubmission guestEnv sampleRequest = .ok task ∧
        validJudgeTask task = false := by
  refine ⟨by decide +kernel, stored_sample, ?_⟩
  refine ⟨taskOf guestEnv sampleRequest (sampleLegacy 61) 0
    [⟨1, 1, text "1 2", text "3"⟩] (.custom (text "guest-9223372036854775809")), ?_, ?_⟩
  · decide +kernel
  · decide +kernel

end OnlineJudge.Submissions
