import OnlineJudge.Judger.TestLoop
import OnlineJudge.Submissions.Responses

/-!
# Hidden tests

The texts of a test go into the task, to the judge, and with the result to the user; `is_sample` is
looked at nowhere.
-/

namespace OnlineJudge.Submissions

open Questions Delivery Store Callback Function List Scalar
open Judger (RecordsTests resultLabel testsOf judge recordsTests_of_judge recordsTests_nil)

variable {Time : Type}

/-! ## The tests -/

/-- Two rows of one test, which have the same texts unless the test is hidden. -/
structure SameButHidden (row row' : TestRow) : Prop where
  id : row.id = row'.id
  isSample : row.isSample = row'.isSample
  texts : row.isSample = true → row.input = row'.input ∧ row.output = row'.output

def testLabel (row : TestRow) : Nat × Bytes × Bytes :=
  ((testInput row).index.toNat, row.input, row.output)

variable {row row' : TestRow} {rows' : List TestRow}

theorem SameButHidden.eq_iff (same : SameButHidden row row') :
    row = row' ↔ testLabel row = testLabel row' := by
  obtain ⟨id, input, output, isSample⟩ := row
  obtain ⟨id', input', output', isSample'⟩ := row'
  obtain ⟨rfl, rfl, -⟩ := same
  simp [testLabel, testInput]

variable {rows : List TestRow}

theorem forall₂_orderedInsert (head : SameButHidden row row')
    (tail : List.Forall₂ SameButHidden rows rows') :
    List.Forall₂ SameButHidden (rows.orderedInsert (fun lhs rhs => lhs.id ≤ rhs.id) row)
      (rows'.orderedInsert (fun lhs rhs => lhs.id ≤ rhs.id) row') := by
  induction tail with
  | nil => exact .cons head .nil
  | @cons other other' rest rest' same tail ih =>
    simp only [List.orderedInsert, head.id, same.id]
    split
    · exact .cons head (.cons same tail)
    · exact .cons same ih

theorem forall₂_getTestsByQuestionId {tests tests' : List TestRow}
    (hidden : List.Forall₂ SameButHidden tests tests') :
    List.Forall₂ SameButHidden (getTestsByQuestionId tests) (getTestsByQuestionId tests') := by
  induction hidden with
  | nil => exact .nil
  | cons same _ ih => exact forall₂_orderedInsert same ih

theorem take_eq_take_iff (hidden : List.Forall₂ SameButHidden rows rows') (n : Nat) :
    rows.take n = rows'.take n ↔
      (rows.map testLabel).take n = (rows'.map testLabel).take n := by
  induction hidden generalizing n with
  | nil => simp
  | cons same _ ih =>
    cases n with
    | zero => simp
    | succ => simp [same.eq_iff, ih]

variable {task : JudgeTaskMessage}

theorem labels_testsOf (tests : task.testCases = rows.map testInput) :
    (testsOf task).map Judger.TestCase.label = rows.map testLabel := by
  rw [testsOf, tests, map_map, map_map]
  rfl

/-! ## The results -/

def verdictOf (test : TestCaseResult) : TestCaseResult :=
  { test with input := [], expectedOutput := [] }

def withoutTexts (result : JudgeResult) : JudgeResult :=
  { result with testCaseResults := result.testCaseResults.map verdictOf }

theorem verdict_label_injective : Injective fun test => (verdictOf test, resultLabel test) := by
  intro test test' same
  cases test
  cases test'
  simp only [verdictOf, resultLabel, Prod.mk.injEq, TestCaseResult.mk.injEq] at same
  obtain ⟨⟨-, rfl, rfl, rfl, -, -, rfl⟩, rfl, rfl, rfl⟩ := same
  rfl

theorem eq_of_withoutTexts_eq {result result' : JudgeResult}
    (same : withoutTexts result = withoutTexts result')
    (labels : result.testCaseResults.map resultLabel = result'.testCaseResults.map resultLabel) :
    result = result' := by
  cases result with | mk status time memory compileError tests completedAt =>
  cases result' with | mk status' time' memory' compileError' tests' completedAt' =>
  simp only [withoutTexts, JudgeResult.mk.injEq] at same labels ⊢
  obtain ⟨status, time, memory, compileError, verdicts, completedAt⟩ := same
  refine ⟨status, time, memory, compileError, ?_, completedAt⟩
  refine List.map_injective_iff.mpr verdict_label_injective ?_
  calc tests.map (fun test => (verdictOf test, resultLabel test))
      = (tests.map verdictOf).zip (tests.map resultLabel) := zip_map'.symm
    _ = (tests'.map verdictOf).zip (tests'.map resultLabel) := by rw [verdicts, labels]
    _ = tests'.map (fun test => (verdictOf test, resultLabel test)) := zip_map'

/-! ## The course of a submission -/

def queuedState (env : Env Time) (request : CreateRequest) : GuestState where
  transient := true
  messageId := randomHex env.messageRandom
  questionId := trim request.questionId
  createdAt := env.now
  submissionId := answeredId env
  language := trim request.language
  status := .queued

def Reported (task : JudgeTaskMessage) (result : JudgeResult) : Prop :=
  result.testCaseResults = [] ∨
    ∃ (σ : Type) (around : Judger.Surroundings σ) (pool : Option Sandbox.SandboxConfig) (world : σ),
      (judge around pool task (testsOf task) world).result = some result

theorem Reported.recordsTests {result : JudgeResult} (reported : Reported task result) :
    RecordsTests (testsOf task) result := by
  rcases reported with none | ⟨σ, around, pool, world, returned⟩
  · exact recordsTests_nil none
  · exact recordsTests_of_judge returned

section Course

variable (reads : Readers) (setting : ServiceSetting) (env : Env Time) (request : CreateRequest)
  (now : DateTime)

/-- `UpdateJudgeResult` stores the result of the new submission. -/
inductive Stores (base : Service) (task : JudgeTaskMessage) (result : JudgeResult) :
    Service → Prop
  /-- For a user, `ApplyJudgeResult` commits it. -/
  | user {row : Submission} {call : ResultCall} {db : Tables} {fates : List ScriptFate}
      (target : task.target = some (.submission (answeredId env)))
      (found : base.db.submission (answeredId env) = some row) (mine : row.userId = task.userId)
      -- the ids of guests' submissions have the highest bit set
      (noGuest : base.cache (customKey (guestTaskId (answeredId env))) = none)
      (isResult : call.result = result) (isNow : call.now = now)
      (applies : AppliesTo setting.codec call (answeredId env) base.db base.db db) :
      Stores base task result
        ⟨db, invalidateSubmissionCaches base.cache
          (submissionKeys task.userId task.questionId) fates⟩
  | guest {encoded json : Bytes} {signed : SignedRequest}
      (target : task.target = some (.custom (guestTaskId (answeredId env))))
      (found : base.cache (customKey (guestTaskId (answeredId env))) = some encoded)
      (queued : reads.parseGuest encoded = some (queuedState env request))
      (sent : signed.messageId = task.messageId)
      (converted : setting.codec.messageToJson result = some json) :
      Stores base task result
        { base with
          cache := update base.cache (customKey (guestTaskId (answeredId env)))
            (some (finishedState setting signed
              ⟨guestTaskMessage signed (guestTaskId (answeredId env))
                (queuedState env request).toCustomState, result, some encoded⟩
              (guestTaskId (answeredId env)) json)) }

structure Course (tests : List TestRow) (base : Service) (task : JudgeTaskMessage)
    (result : JudgeResult) (after : Service) : Prop where
  created : createSubmission { env with tests := some tests } request = .ok task
  numbered : answeredId env ≠ 0
  reported : Reported task result
  received : ∃ payload, setting.parseResult payload = some result
  stored : Stores reads setting env request now base task result after

end Course

/-! ## The responses -/

/-- What is assumed of jsoncpp and of the JSON of protobuf. -/
structure Readers.Faithful (reads : Readers) (setting : ServiceSetting) : Prop where
  json : setting.json.Faithful
  same : reads.json = setting.json
  result : ∀ {payload result json}, setting.parseResult payload = some result →
    setting.codec.messageToJson result = some json →
      validUtf8 json = true ∧ reads.jsonToResult json = result

/-- `UpdateJudgeResult` sets the members of a finished state, and leaves what else was there. -/
theorem Readers.Faithful.guest {reads : Readers} {setting : ServiceSetting}
    (faithful : reads.Faithful setting) (signed : SignedRequest) (task : JudgeTaskMessage)
    (result : JudgeResult) (taskId : Bytes) {encoded json : Bytes} {state : GuestState}
    (parsed : reads.parseGuest encoded = some state) (transient : state.transient = true)
    (numbered : state.submissionId ≠ 0) (valid : validUtf8 json = true) :
    ∃ after, reads.parseGuest
        (finishedState setting signed ⟨task, result, some encoded⟩ taskId json) = some after ∧
      after.transient = true ∧ after.submissionId = state.submissionId ∧
      after.resultJson = some json := by
  obtain ⟨document, read, rfl⟩ := Option.map_eq_some_iff.mp parsed
  rw [faithful.same] at read
  obtain ⟨other, readBack, written, kept⟩ := faithful.json.read_assign document
    (faithful.json.distinct read)
    (show ((finishedMembers signed ⟨task, result, some encoded⟩ taskId json).map Prod.fst).Nodup by
      simp [finishedMembers])
  have flag : other.read "transient" bool? = some true := by
    refine Document.read_again (kept _ (by simp [finishedMembers])) ?_ rfl fun value read => ?_
    · exact (Option.getD_eq_iff.mp transient).resolve_right (by simp)
    · cases value with
      | bool => rfl
      | _ => cases read
  have id : other.read "submission_id" uint64? = document.read "submission_id" uint64? := by
    cases found : document.read "submission_id" uint64? with
    | none => exact absurd (by simp [guestOf, found]) numbered
    | some id =>
      refine Document.read_again (kept _ (by simp [finishedMembers])) found rfl fun value read => ?_
      cases value with
      | int value =>
        obtain ⟨bounds, -⟩ := Option.ite_none_right_eq_some.mp read
        simp only [Scalar.plain, Bool.and_eq_true, decide_eq_true_eq]
        omega
      | _ => cases read
  obtain ⟨value, found, back⟩ := written "result_json" (.string json) (by simp [finishedMembers])
  refine ⟨guestOf other, ?_, ?_, ?_, ?_⟩
  · rw [parseGuest, faithful.same, finishedState, Option.bind_some, read,
      Option.getD_some, readBack, Option.map_some]
  · simp [guestOf, stateOf, flag]
  · simp [guestOf, id]
  · simp [guestOf, resultJsonIn, Document.stringAt, Document.read, found, back valid, string?]

def SameResponses (reads : Readers) (ids : List UInt64) (owner : Option UInt32) (id : UInt64)
    (service service' : Service) : Prop :=
  ∀ asking : Asking, asking.user = owner →
    getSubmission reads asking service id = getSubmission reads asking service' id ∧
      ∀ request, listSubmissions reads asking service ids request =
        listSubmissions reads asking service' ids request

theorem take_customKey (taskId : Bytes) : (customKey taskId).take 1 = [106] := by
  rw [customKey, take_append_of_le_length (by decide +kernel)]
  decide +kernel

theorem customKey_not_mem_submissionKeys (taskId : Bytes) (userId : UInt32) (questionId : Bytes) :
    customKey taskId ∉ submissionKeys userId questionId := by
  have other {start rest : Bytes} (long : 1 ≤ start.length) (differs : start.take 1 ≠ [106]) :
      customKey taskId ≠ start ++ rest := by
    intro same
    rw [← take_customKey taskId, same, take_append_of_le_length long] at differs
    exact differs rfl
  simp only [submissionKeys, append_assoc, mem_cons, not_mem_nil, or_false, not_or]
  refine ⟨other ?_ ?_, other ?_ ?_, other ?_ ?_⟩ <;> decide +kernel

theorem invalidateSubmissionCaches_of_not_mem {key : Bytes} {keys : List Bytes}
    (absent : key ∉ keys) (cache : Cache) (fates : List ScriptFate) :
    invalidateSubmissionCaches cache keys fates key = cache key := by
  induction keys generalizing cache fates with
  | nil => rfl
  | cons first keys ih =>
    cases fates with
    | nil => rfl
    | cons fate fates =>
      rw [mem_cons, not_or] at absent
      refine (ih absent.2 _ fates).trans ?_
      cases fate with
      | answered | replyLost => exact update_of_ne absent.1 _ _
      | notExecuted => rfl

theorem invalidateSubmissionCaches_customKey (cache : Cache) (userId : UInt32) (questionId : Bytes)
    (fates : List ScriptFate) (taskId : Bytes) :
    invalidateSubmissionCaches cache (submissionKeys userId questionId) fates (customKey taskId) =
      cache (customKey taskId) :=
  invalidateSubmissionCaches_of_not_mem (customKey_not_mem_submissionKeys _ _ _) cache fates

theorem submission_of_appliesTo {codec : Codec} {call : ResultCall} {id : UInt64}
    {base after : Tables} (applies : AppliesTo codec call id base base after) :
    ∃ row json, base.submission id = some row ∧ codec.messageToJson call.result = some json ∧
      ∀ id', after.submission id' =
        if id' = id then some (appliedSubmission row call.result json call.now)
        else base.submission id' := by
  obtain ⟨row, json, line, -, -, found, converted, -, -, -, rfl⟩ := applies
  exact ⟨row, json, found, converted, fun id' => by simp⟩

section Agreement

variable {reads : Readers} {setting : ServiceSetting} {env : Env Time} {request : CreateRequest}
  {now : DateTime} {base base' after after' : Service} {task task' : JudgeTaskMessage}
  {result : JudgeResult}

theorem Stores.sameShown (shown : SameShown base base') (target : task'.target = task.target)
    (messageId : task'.messageId = task.messageId)
    (stores : Stores reads setting env request now base task result after)
    (stores' : Stores reads setting env request now base' task' result after') :
    SameShown after after' := by
  cases stores with
  | user mine _ _ _ isResult isNow applies =>
    cases stores' with
    | user _ _ _ _ isResult' isNow' applies' =>
      obtain ⟨row, json, found, converted, written⟩ := submission_of_appliesTo applies
      obtain ⟨row', json', found', converted', written'⟩ := submission_of_appliesTo applies'
      rw [shown.submissions, found'] at found
      cases found
      rw [isResult'] at converted'
      rw [isResult, converted'] at converted
      cases converted
      refine ⟨fun id => ?_, fun id => ?_⟩
      · rw [written, written', isResult, isResult', isNow, isNow', shown.submissions]
      · exact (invalidateSubmissionCaches_customKey _ _ _ _ _).trans
          ((shown.guests id).trans (invalidateSubmissionCaches_customKey _ _ _ _ _).symm)
    | guest other =>
      rw [target, mine] at other
      cases other
  | guest mine found _ sent converted =>
    cases stores' with
    | user other =>
      rw [target, mine] at other
      cases other
    | guest _ found' _ sent' converted' =>
      rw [shown.guests, found'] at found
      cases found
      rw [converted'] at converted
      cases converted
      refine ⟨shown.submissions, fun id => ?_⟩
      simp only [update_apply, shown.guests, finishedState, finishedMembers, guestTaskMessage,
        expiresAt, sent, sent', messageId]

variable {tests : List TestRow}

theorem Course.exists_task_eq
    (course : Course reads setting env request now tests base task result after) :
    ∃ question, env.question = some question ∧
      task = taskOf env request question (env.getSessionUser.getD 0)
        ((getTestsByQuestionId tests).map testInput) (answeredTarget env) := by
  obtain ⟨question, rows, built⟩ := submitted_of_ok course.created
  cases built.listed
  exact ⟨question, built.found, built.isTask⟩

theorem Course.getSubmission_eq_ok (faithful : reads.Faithful setting)
    (course : Course reads setting env request now tests base task result after) :
    ∃ message, getSubmission reads { user := env.getSessionUser } after (answeredId env) =
      .ok message ∧ message.result = some result := by
  obtain ⟨payload, received⟩ := course.received
  obtain ⟨question, -, rfl⟩ := course.exists_task_eq
  cases course.stored with
  | @user _ call _ _ target found mine noGuest isResult isNow applies =>
    obtain ⟨row, json, seen, converted, written⟩ := submission_of_appliesTo applies
    obtain rfl := Option.some.inj (seen.symm.trans found)
    rw [isResult] at converted
    cases user : env.getSessionUser with
    | none => simp [taskOf, answeredTarget, user] at target
    | some userId =>
      have owner : userId = (appliedSubmission row call.result json call.now).userId := by
        rw [appliedSubmission, mine, taskOf, user]
        rfl
      rw [owner]
      refine ⟨_, getSubmission_of_row course.numbered
        ((invalidateSubmissionCaches_customKey _ _ _ _ _).trans noGuest)
        ((written _).trans (if_pos rfl)), ?_⟩
      exact congrArg some (faithful.result received converted).2
  | @guest encoded json signed target found queued sent converted =>
    obtain ⟨valid, back⟩ := faithful.result received converted
    obtain ⟨state, parsed, transient, id, json⟩ :=
      faithful.guest signed (guestTaskMessage signed (guestTaskId (answeredId env))
        (queuedState env request).toCustomState) result (guestTaskId (answeredId env)) queued rfl
        course.numbered valid
    refine ⟨_, getSubmission_of_guest course.numbered (update_self _ _ _) parsed transient id, ?_⟩
    rw [guestMessage, json]
    exact congrArg some back

theorem Course.labels_eq_take
    (course : Course reads setting env request now tests base task result after) :
    result.testCaseResults.map resultLabel =
      ((getTestsByQuestionId tests).map testLabel).take result.testCaseResults.length := by
  obtain ⟨question, -, rfl⟩ := course.exists_task_eq
  have recorded := course.reported.recordsTests
  rw [RecordsTests, labels_testsOf rfl] at recorded
  simpa using List.prefix_iff_eq_take.mp recorded

end Agreement

/-- **Hidden tests.** For databases that differ in the texts of hidden tests only, the owner gets
the same responses exactly if the tests that were run are the same. -/
theorem responses_agree_iff {reads : Readers} {setting : ServiceSetting}
    (faithful : reads.Faithful setting) {env : Env Time} {request : CreateRequest} {now : DateTime}
    {tests tests' : List TestRow} (hidden : List.Forall₂ SameButHidden tests tests')
    {base base' : Service} (shown : SameShown base base') {task task' : JudgeTaskMessage}
    {result result' : JudgeResult} {after after' : Service}
    (course : Course reads setting env request now tests base task result after)
    (course' : Course reads setting env request now tests' base' task' result' after')
    {observed : JudgeResult} (alike : withoutTexts result = observed)
    (alike' : withoutTexts result' = observed) (ids : List UInt64) :
    SameResponses reads ids env.getSessionUser (answeredId env) after after' ↔
      (getTestsByQuestionId tests).take observed.testCaseResults.length =
        (getTestsByQuestionId tests').take observed.testCaseResults.length := by
  have length : result.testCaseResults.length = observed.testCaseResults.length := by
    rw [← alike, withoutTexts, length_map]
  have length' : result'.testCaseResults.length = observed.testCaseResults.length := by
    rw [← alike', withoutTexts, length_map]
  have labels := course.labels_eq_take
  have labels' := course'.labels_eq_take
  rw [take_eq_take_iff (forall₂_getTestsByQuestionId hidden), ← length]
  rw [length', ← length] at labels'
  rw [← labels, ← labels']
  -- The tests that were run are the same exactly if the results name the same tests.
  constructor
  · intro same
    obtain ⟨message, shows, isResult⟩ := course.getSubmission_eq_ok faithful
    obtain ⟨message', shows', isResult'⟩ := course'.getSubmission_eq_ok faithful
    have equal := (same { user := env.getSessionUser } rfl).1
    rw [shows, shows'] at equal
    cases equal
    rw [isResult] at isResult'
    cases isResult'
    rfl
  · intro sameLabels
    -- The two results are then one, and so is what the calls read.
    obtain rfl := eq_of_withoutTexts_eq (alike.trans alike'.symm) sameLabels
    obtain ⟨question, found, isTask⟩ := course.exists_task_eq
    obtain ⟨question', found', isTask'⟩ := course'.exists_task_eq
    rw [found] at found'
    cases found'
    have sameShown : SameShown after after' :=
      course.stored.sameShown shown (by rw [isTask, isTask']; rfl) (by rw [isTask, isTask']; rfl)
        course'.stored
    exact fun asking _ => ⟨sameShown.getSubmission_eq _, sameShown.listSubmissions_eq ids⟩

/-! ## A hidden test that is shown -/

def hiddenRow (output : Bytes) : TestRow := ⟨1, text "1 2", output, false⟩

/-- The result of a program that writes the letter `a`, or of a run that was cancelled. -/
def shownResult (output : Bytes) : JudgeResult :=
  if output = [] then { status := .cancelled }
  else
    { status := .wrongAnswer
      memoryUsedBytes := 1
      testCaseResults :=
        [{ index := 1
           status := .wrongAnswer
           memoryUsedBytes := 1
           input := text "1 2"
           expectedOutput := output
           actualOutput := [97] }] }

/-- The result as protobuf writes it. -/
def shownPayload (output : Bytes) : Bytes :=
  if output = [] then [8, 11]
  else
    [8, 5, 24, 1, 42, 17, 8, 1, 16, 5, 32, 1, 42, 3, 49, 32, 50, 50, 1] ++ output ++ [58, 1, 97]

/-- The result as `MessageToJsonString` writes it. -/
def shownJson (output : Bytes) : Bytes :=
  if output = [] then text "\x7b\"status\":\"SUBMISSION_STATUS_CANCELLED\"\x7d"
  else
    text "\x7b\"status\":\"SUBMISSION_STATUS_WRONG_ANSWER\",\"memoryUsedBytes\":\"1\"," ++
      text "\"testCaseResults\":[\x7b\"index\":1,\"status\":\"SUBMISSION_STATUS_WRONG_ANSWER\"," ++
      text "\"memoryUsedBytes\":\"1\",\"input\":\"1 2\",\"expectedOutput\":\"" ++ output ++
      text "\",\"actualOutput\":\"a\"\x7d]\x7d"

def shownOutputs : List Bytes := [[], [98], [99]]

def shownSetting : ServiceSetting where
  codec :=
    { serializeTask _ := none
      parseTask _ := none
      messageToJson result := (shownOutputs.find? (shownResult · = result)).map shownJson
      parse_serialize _ serialized := by cases serialized }
  parseResult payload := (shownOutputs.find? (shownPayload · = payload)).map shownResult
  hmac _ _ := []
  configuredId := none
  configuredSecret := none
  json := countedJson

def shownReaders : Readers where
  json := countedJson
  jsonToResult json := ((shownOutputs.find? (shownJson · = json)).map shownResult).getD {}
  sameQuestion lhs rhs := lhs = rhs

theorem faithful_shownReaders : shownReaders.Faithful shownSetting where
  json := countedJson_faithful
  same := rfl
  result := by
    intro payload result json _ converted
    obtain ⟨output, found, rfl⟩ := Option.map_eq_some_iff.mp converted
    have known : ∀ output ∈ shownOutputs, validUtf8 (shownJson output) = true ∧
        shownReaders.jsonToResult (shownJson output) = shownResult output := by
      decide +kernel
    obtain rfl : shownResult output = result := by simpa using find?_some found
    exact known output (mem_of_find?_eq_some found)

/-- A submission of the user `1`, with the test. -/
def shownTask (output : Bytes) : JudgeTaskMessage :=
  taskOf (sampleEnv (sampleLegacy 1) []) sampleRequest (sampleLegacy 1) 1
    [testInput (hiddenRow output)] (.submission 1)

def shownRow : Submission where
  userId := 1
  questionId := text "1"
  code := some sampleRequest.code
  language := some sampleRequest.language
  status := .queued
  createdAt := 1000000

/-- The submission before its result is stored; the payload in the outbox stands for the task. -/
def shownBase (output : Bytes) : Service where
  db := (emptyTables.setSubmission 1 shownRow).setOutbox (text "00")
    { submissionId := some 1, payload := output, createdAt := 1000000 }
  cache := fun _ => none

theorem sameShown_shownBase (output output' : Bytes) :
    SameShown (shownBase output) (shownBase output') where
  submissions id := by simp [shownBase]
  guests id := rfl

def shownCall (written : Bytes) : ResultCall where
  request :=
    { messageId := text "00"
      target := some (.submission 1)
      resultPayload := shownPayload written }
  result := shownResult written
  customExpiresAt := 0
  now := 2000000

def shownAfter (output written : Bytes) : Service where
  db := (((shownBase output).db.setSubmission 1
    (appliedSubmission shownRow (shownResult written) (shownJson written) 2000000)).setHistory 0
    (historyLine shownRow (shownResult written) (shownJson written) 2000000)).setReceipt (text "00")
      (newReceipt (shownCall written).request 0 (.submission 1))
  cache := fun _ => none

def ShownCourse (output written : Bytes) : Prop :=
  Course shownReaders shownSetting (sampleEnv (sampleLegacy 1) []) sampleRequest 2000000
    [hiddenRow output] (shownBase output) (shownTask output) (shownResult written)
    (shownAfter output written)

theorem course_shown {output written : Bytes} (known : written ∈ shownOutputs)
    (created : createSubmission
      { sampleEnv (sampleLegacy 1) [] with tests := some [hiddenRow output] } sampleRequest =
        .ok (shownTask output))
    (reported : Reported (shownTask output) (shownResult written)) :
    ShownCourse output written where
  created := created
  numbered := by decide
  reported := reported
  received := by
    have parsed : ∀ written ∈ shownOutputs,
        shownSetting.parseResult (shownPayload written) = some (shownResult written) := by
      decide +kernel
    exact ⟨_, parsed written known⟩
  stored := by
    have converted : ∀ written ∈ shownOutputs,
        shownSetting.codec.messageToJson (shownResult written) = some (shownJson written) := by
      decide +kernel
    have applies : AppliesTo shownSetting.codec (shownCall written) 1 (shownBase output).db
        (shownBase output).db (shownAfter output written).db :=
      ⟨shownRow, shownJson written, 0, rfl, rfl, rfl, converted written known, rfl, rfl, rfl, rfl⟩
    have stores : Stores shownReaders shownSetting (sampleEnv (sampleLegacy 1) []) sampleRequest
        2000000 (shownBase output) (shownTask output) (shownResult written)
        ⟨_, invalidateSubmissionCaches (shownBase output).cache
          (submissionKeys (shownTask output).userId (shownTask output).questionId) []⟩ :=
      .user rfl rfl rfl rfl rfl rfl applies
    exact stores

theorem sameButHidden_sample : List.Forall₂ SameButHidden [hiddenRow [98]] [hiddenRow [99]] :=
  .cons ⟨rfl, rfl, nofun⟩ .nil

theorem responses_agree_cancelled :
    SameResponses shownReaders [1] (some 1) 1 (shownAfter [98] []) (shownAfter [99] []) := by
  have course : ShownCourse [98] [] :=
    course_shown (by decide) (by decide +kernel) (.inl rfl)
  have course' : ShownCourse [99] [] :=
    course_shown (by decide) (by decide +kernel) (.inl rfl)
  exact (responses_agree_iff faithful_shownReaders sameButHidden_sample (sameShown_shownBase _ _)
    course course' rfl rfl [1]).mpr rfl

/-- The world in which the program writes the letter `a`. -/
def letterWorld : Judger.Surroundings Unit :=
  Judger.sampleWorld fun _ request => (Judger.sampleReply request, ())

/-- The expected output is `b` in one database and `c` in the other, and the program fails the test.
-/
theorem hidden_test_shown :
    List.Forall₂ SameButHidden [hiddenRow [98]] [hiddenRow [99]] ∧
      SameShown (shownBase [98]) (shownBase [99]) ∧
      ShownCourse [98] [98] ∧ ShownCourse [99] [99] ∧
      withoutTexts (shownResult [98]) = withoutTexts (shownResult [99]) ∧
      getSubmission shownReaders { user := some 1 } (shownAfter [98] [98]) 1 ≠
        getSubmission shownReaders { user := some 1 } (shownAfter [99] [99]) 1 := by
  have returned : ∀ output ∈ [[98], [99]], (judge letterWorld (some {}) (shownTask output)
      (testsOf (shownTask output)) ()).result = some (shownResult output) := by
    decide +kernel
  refine ⟨sameButHidden_sample, sameShown_shownBase _ _, ?_, ?_, by decide +kernel,
    by decide +kernel⟩
  · exact course_shown (by decide) (by decide +kernel)
      (.inr ⟨Unit, letterWorld, some {}, (), returned _ (by decide)⟩)
  · exact course_shown (by decide) (by decide +kernel)
      (.inr ⟨Unit, letterWorld, some {}, (), returned _ (by decide)⟩)

end OnlineJudge.Submissions
