import OnlineJudge.Callback.Faults
import OnlineJudge.Submissions.Creation

/-!
# What users see of submissions

`GetSubmission` and `ListSubmissions` (`oj_service_impl.cpp`), with the queries of
`ModelSubmission` and with `ToProto` (`proto_adapter.hpp`).  The submission of a guest is a state in
Redis.
-/

namespace OnlineJudge.Submissions

open Questions Delivery Store Callback Scalar

structure SubmissionMessage where
  submissionId : UInt64
  userId : UInt32 := 0
  questionId : Bytes
  code : Bytes := []
  language : Bytes
  status : SubmissionStatus
  result : Option JudgeResult
  createdAt : Int
  completedAt : Int := 0
  resultVersion : UInt64 := 0
  deriving DecidableEq

/-- `message ListSubmissionsRequest`; the status is `none` for a number that has no name. -/
structure ListRequest where
  page : PageRequest
  questionId : Bytes
  submissionStatus : Option SubmissionStatus
  deriving DecidableEq

structure ListResponse where
  page : PageResponse
  submissions : List SubmissionMessage := []
  guest : Bool := false
  message : String := ""
  deriving DecidableEq

structure GuestState extends CustomState where
  submissionId : UInt64 := 0
  language : Bytes := []
  status : SubmissionStatus := .unspecified
  resultJson : Option Bytes := none
  deriving DecidableEq

/-- What `GetSubmission` reads in a state. -/
def guestOf (document : Document) : GuestState where
  toCustomState := stateOf document
  submissionId := .ofNat ((document.read "submission_id" uint64?).getD 0).toNat
  language := document.stringAt "language"
  status := statusIn document
  resultJson := resultJsonIn document

structure Readers where
  /-- `parseFromStream` -/
  json : JsonCodec
  /-- What `JsonStringToMessage` leaves in the message; nobody looks at its status. -/
  jsonToResult : Bytes → JudgeResult
  /-- `=` of the database on question ids. -/
  sameQuestion : Bytes → Bytes → Bool

def Readers.parseGuest (reads : Readers) (encoded : Bytes) : Option GuestState :=
  (reads.json.read encoded).map guestOf

structure Asking where
  user : Option UInt32
  cacheFate : ScriptFate := .answered
  database : Bool := true

section Calls

variable (reads : Readers) (asking : Asking) (service : Service)

def toProto (id : UInt64) (input : Submission) : SubmissionMessage where
  submissionId := id
  userId := input.userId
  questionId := input.questionId
  code := input.code.getD []
  language := input.language.getD []
  status := input.status
  result := input.resultJson.map reads.jsonToResult
  createdAt := input.createdAt.tdiv 1000000
  completedAt := (input.completedAt.map (Int.tdiv · 1000000)).getD 0
  resultVersion := input.resultVersion

def guestMessage (id : UInt64) (state : GuestState) : SubmissionMessage where
  submissionId := id
  questionId := state.questionId
  language := state.language
  status := state.status
  result := state.resultJson.map reads.jsonToResult
  createdAt := state.createdAt

def showGuest (id : UInt64) (encoded : Bytes) : Except Failure SubmissionMessage :=
  match reads.parseGuest encoded with
  | none => .error ⟨500, "TRANSIENT_SUBMISSION_STATE_INVALID"⟩
  | some state =>
    if !state.transient || state.submissionId ≠ id then
      .error ⟨500, "TRANSIENT_SUBMISSION_STATE_INVALID"⟩
    else .ok (guestMessage reads id state)

def findSubmission (id : UInt64) : Option Submission :=
  if asking.database then service.db.submission id else none

def getSubmission (id : UInt64) : Except Failure SubmissionMessage :=
  if id = 0 then .error ⟨400, "INVALID_SUBMISSION_ID"⟩
  else
    match service.cache.read (customKey (guestTaskId id)) asking.cacheFate with
    | some encoded => showGuest reads id encoded
    | none =>
      match asking.user with
      | none => .error ⟨401, "UNAUTHORIZED"⟩
      | some user =>
        match findSubmission asking service id with
        | none => .error ⟨404, "SUBMISSION_NOT_FOUND"⟩
        | some submission =>
          if submission.userId ≠ user then .error ⟨403, "FORBIDDEN"⟩
          else .ok (toProto reads id submission)

/-- `ModelSubmission::ListSubmissions`, with the rows of the page and the number of all rows.
`ids` are the keys of the table, the last one first. -/
def listRows (ids : List UInt64) (userId : UInt32) (questionId : Bytes)
    (status : Option SubmissionStatus) (page size : Nat) :
    Option (List (UInt64 × Submission) × Nat) :=
  if userId = 0 ∨ page = 0 ∨ size = 0 ∨ (questionId ≠ [] ∧ !isValidQuestionId questionId) ∨
      !asking.database then none
  else
    let rows := ids.filterMap fun id =>
      (service.db.submission id).bind fun row =>
        if row.userId = userId ∧ (questionId = [] ∨ reads.sameQuestion row.questionId questionId) ∧
            status.all (row.status = ·) then some (id, row)
        else none
    some ((rows.drop ((page - 1) * size)).take size, rows.length)

def listSubmissions (ids : List UInt64) (request : ListRequest) : Except Failure ListResponse :=
  match asking.user with
  | none => .ok { page := request.page.setPage 0 20 100, guest := true, message := "您还未登录，快去登录吧~" }
  | some user =>
    if request.questionId ≠ [] ∧ !validQuestionId request.questionId then
      .error ⟨400, "INVALID_QUESTION_ID"⟩
    else
      match request.submissionStatus with
      | none => .error ⟨400, "INVALID_SUBMISSION_STATUS"⟩
      | some status =>
        match listRows reads asking service ids user request.questionId
          (if status = .unspecified then none else some status) request.page.number
          (min (max (if request.page.pageSize = 0 then 20 else request.page.pageSize.toNat) 1)
            100) with
        | none => .error ⟨500, "DB_ERROR"⟩
        | some (rows, total) =>
          .ok
            { page := request.page.setPage total 20 100
              submissions := rows.map fun (id, row) => toProto reads id row }

end Calls

section Shown

variable {reads : Readers} {service : Service} {id : UInt64}

theorem getSubmission_of_row {row : Submission} (numbered : id ≠ 0)
    (noGuest : service.cache (customKey (guestTaskId id)) = none)
    (found : service.db.submission id = some row) :
    getSubmission reads { user := some row.userId } service id = .ok (toProto reads id row) := by
  simp [getSubmission, Cache.read, findSubmission, numbered, noGuest, found]

theorem getSubmission_of_guest {user : Option UInt32} {encoded : Bytes} {state : GuestState}
    (numbered : id ≠ 0) (found : service.cache (customKey (guestTaskId id)) = some encoded)
    (parsed : reads.parseGuest encoded = some state) (transient : state.transient = true)
    (sameId : state.submissionId = id) :
    getSubmission reads { user } service id = .ok (guestMessage reads id state) := by
  simp [getSubmission, Cache.read, showGuest, numbered, found, parsed, transient, sameId]

end Shown

structure SameShown (service service' : Service) : Prop where
  submissions : ∀ id, service.db.submission id = service'.db.submission id
  guests : ∀ id, service.cache (customKey (guestTaskId id)) =
    service'.cache (customKey (guestTaskId id))

namespace SameShown

variable {reads : Readers} {asking : Asking} {service service' : Service}

theorem getSubmission_eq (same : SameShown service service') (id : UInt64) :
    getSubmission reads asking service id = getSubmission reads asking service' id := by
  have read : service.cache.read (customKey (guestTaskId id)) asking.cacheFate =
      service'.cache.read (customKey (guestTaskId id)) asking.cacheFate := by
    cases asking.cacheFate with
    | answered => exact same.guests id
    | replyLost | notExecuted => rfl
  unfold getSubmission findSubmission
  rw [read, same.submissions]

theorem listSubmissions_eq (same : SameShown service service') (ids : List UInt64)
    (request : ListRequest) :
    listSubmissions reads asking service ids request =
      listSubmissions reads asking service' ids request := by
  unfold listSubmissions listRows
  simp only [same.submissions]

end SameShown

end OnlineJudge.Submissions
