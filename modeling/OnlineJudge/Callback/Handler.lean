import OnlineJudge.Callback.Signing
import OnlineJudge.Common.Json
import OnlineJudge.Store.Transactions

/-!
# The callback handler

`OJServiceImpl::UpdateJudgeResult` (`oj_service_impl.cpp`).  A `Stage` is where the handler is:
before a command or a call of `ModelSubmission`, or at its end; the code between is a function.
`GetCachedStringByAnyKey` and `GetOutbox` return `false` for an error as for a missing entry.
-/

namespace OnlineJudge.Callback

open Delivery Store Function Scalar

structure CustomState where
  transient : Bool := false
  messageId : Bytes := []
  questionId : Bytes := []
  createdAt : Int := 0
  deriving DecidableEq

/-- What the handler reads in the state of a guest's task. -/
def stateOf (document : Document) : CustomState where
  transient := (document.read "transient" bool?).getD false
  messageId := document.stringAt "message_id"
  questionId := document.stringAt "question_id"
  createdAt := (document.read "created_at" int64?).getD 0

/-- `ProtoAdapter::SubmissionStatus`. -/
def submissionStatus (status : Bytes) : SubmissionStatus :=
  match String.ofList (status.map fun byte => Char.ofUInt8 (toUpper byte)) with
  | "PENDING" => .pending
  | "QUEUED" => .queued
  | "JUDGING" => .judging
  | "AC" | "ACCEPTED" => .accepted
  | "WA" | "WRONG_ANSWER" => .wrongAnswer
  | "CE" | "COMPILE_ERROR" => .compileError
  | "MLE" | "MEMORY_LIMIT_EXCEEDED" => .memoryLimitExceeded
  | "TLE" | "TIME_LIMIT_EXCEEDED" => .timeLimitExceeded
  | "RTE" | "RUNTIME_ERROR" => .runtimeError
  | "SYSTEM_ERROR" => .systemError
  | "CANCELLED" => .cancelled
  | _ => .unspecified

theorem submissionStatus_name (status : SubmissionStatus) :
    submissionStatus status.name = status ∧ validUtf8 status.name = true := by
  cases status <;> decide +kernel

/-- The status that `GetSubmission` and `GetCustomTest` find in a state. -/
def statusIn (document : Document) : SubmissionStatus :=
  submissionStatus (document.stringAt "status")

def resultJsonIn (document : Document) : Option Bytes :=
  (document.lookup "result_json").map fun _ => document.stringAt "result_json"

structure ServiceSetting where
  codec : Codec
  /-- `ParseFromString` of `JudgeResult`. -/
  parseResult : Bytes → Option JudgeResult
  hmac : Bytes → Bytes → Bytes
  /-- `OJ_JUDGE_CALLBACK_KEY_ID`. -/
  configuredId : Option Bytes
  /-- `OJ_JUDGE_CALLBACK_SECRET`. -/
  configuredSecret : Option Bytes
  /-- `writeString` and `parseFromStream`. -/
  json : JsonCodec

def ServiceSetting.parseState (setting : ServiceSetting) (encoded : Bytes) : Option CustomState :=
  (setting.json.read encoded).map stateOf

abbrev Cache := Bytes → Option Bytes

namespace Cache

variable (cache : Cache)

/-- `ReserveCachedStringByAnyKey`: `none` for `-1`, and otherwise whether the key was new. -/
def reserve (key value : Bytes) (fate : ScriptFate) : Cache × Option Bool :=
  let reserved := if cache key = none then update cache key (some value) else cache
  match fate with
  | .answered => (reserved, some (decide (cache key = none)))
  | .replyLost => (reserved, none)
  | .notExecuted => (cache, none)

/-- `GetCachedStringByAnyKey`, which takes an error for a missing key. -/
def read (key : Bytes) : ScriptFate → Option Bytes
  | .answered => cache key
  | .replyLost | .notExecuted => none

def write (key value : Bytes) (ttl : Int) (fate : ScriptFate) : Cache × Bool :=
  if ttl ≤ 0 then (cache, false)
  else
    match fate with
    | .answered => (update cache key (some value), true)
    | .replyLost => (update cache key (some value), false)
    | .notExecuted => (cache, false)

def delete (key : Bytes) : ScriptFate → Cache
  | .answered | .replyLost => update cache key none
  | .notExecuted => cache

end Cache

def nonceKey (request : SignedRequest) : Bytes :=
  text "judge:callback-nonce:" ++ request.serviceAuth.keyId ++ text ":" ++ request.serviceAuth.nonce

def customKey (taskId : Bytes) : Bytes := text "judge:custom:" ++ taskId

def submissionKeys (userId : UInt32) (questionId : Bytes) : List Bytes :=
  let user := decimalInt userId.toInt32.toInt
  [text "submit:user:" ++ user ++ text ":q:" ++ questionId, text "stats:user:" ++ user,
    text "pass:user:" ++ user ++ text ":q:" ++ questionId]

/-- `InvalidateSubmissionCaches`; a command without a fate is not executed. -/
def invalidateSubmissionCaches (cache : Cache) (keys : List Bytes) (fates : List ScriptFate) :
    Cache :=
  (keys.zip fates).foldl (fun cache (key, fate) => cache.delete key fate) cache

structure Response where
  outcome : PersistenceOutcome := .unspecified
  code : Nat := 200
  message : String := ""
  retryAfterMs : Nat := 0
  deriving DecidableEq

structure Found where
  task : JudgeTaskMessage
  result : JudgeResult
  transient : Option Bytes
  deriving DecidableEq

inductive Stage
  | reserving
  | reading (taskId : Bytes)
  /-- Before `GetOutbox`. -/
  | looking
  /-- Before `ApplyJudgeResult`. -/
  | applying (found : Found)
  /-- Before `InvalidateSubmissionCaches`. -/
  | invalidating (found : Found) (response : Response)
  | writing (found : Found) (taskId resultJson : Bytes) (response : Response)
  | responded (response : Response)
  deriving DecidableEq

def rejected (code : Nat) (message : String) : Stage :=
  .responded { outcome := .rejected, code := code, message := message }

def retryable (code : Nat) (message : String) : Stage :=
  .responded
    { outcome := .retryableFailure, code := code, message := message, retryAfterMs := 1000 }

section Handler

variable (setting : ServiceSetting) (request : SignedRequest)

def verifyCallbackHmac : Bool :=
  match setting.configuredId, setting.configuredSecret with
  | some configuredId, some configuredSecret =>
    !(configuredSecret = [] ∨ request.serviceAuth.keyId ≠ configuredId ∨
        request.serviceAuth.hmacSha256.length ≠ 32) &&
      verifyJudgeCallbackHmac setting.hmac configuredSecret request
  | _, _ => false

variable (now : Int)

def recent : Bool :=
  (now - request.serviceAuth.timestamp.toInt).natAbs ≤ 300

def start : Stage :=
  if !fieldsPresent request then .responded { code := 400, message := "INVALID_CALLBACK" }
  else if !recent request now || !verifyCallbackHmac setting request then
    rejected 401 "INVALID_SERVICE_AUTH"
  else .reserving

def guestTask : Option Bytes :=
  match request.target with
  | some (.custom id) => if (text "guest-").isPrefixOf id then some id else none
  | _ => none

def afterReserve : Option Bool → Stage
  | some false => rejected 409 "CALLBACK_REPLAYED"
  | none => retryable 503 "REDIS_ERROR"
  | some true =>
    match guestTask request with
    | some taskId => .reading taskId
    | none => .looking

def expiresAt (task : JudgeTaskMessage) : Int := task.createdAt * 1000000 + 600 * 1000000

def hasCustomTarget : Bool := request.target matches some (.custom _)

/-- After `ApplyJudgeResult`, or in its place for a transient task. -/
def afterApply (found : Found) (outcome : ApplyOutcome) : Stage :=
  match outcome with
  | .conflict | .notFound => rejected 409 "CONFLICTING_JUDGE_RESULT"
  | .retryableFailure => retryable 503 "PERSIST_RESULT_FAILED"
  | .persisted | .idempotent =>
    let response : Response :=
      { outcome := if outcome = .idempotent then .idempotent else .persisted }
    match request.target with
    | some (.submission _) =>
      if outcome = .persisted then .invalidating found response else .responded response
    | some (.custom taskId) =>
      match setting.codec.messageToJson found.result with
      | none =>
        .responded { outcome := .retryableFailure, code := 500, message := "ENCODE_RESULT_FAILED" }
      | some resultJson => .writing found taskId resultJson response
    | none => .responded response

/-- The checks of the result and of the age of a custom task; `now` is in microseconds. -/
def checkResult (task : JudgeTaskMessage) (transient : Option Bytes) : Stage :=
  match setting.parseResult request.resultPayload with
  | none => rejected 400 "INVALID_JUDGE_RESULT"
  | some result =>
    if !finalStatus result.status then rejected 400 "INVALID_JUDGE_RESULT"
    else if hasCustomTarget request ∧ expiresAt task ≤ now then
      rejected 410 "CUSTOM_TASK_EXPIRED"
    else if transient.isSome then afterApply setting request ⟨task, result, transient⟩ .persisted
    else .applying ⟨task, result, transient⟩

def guestTaskMessage (taskId : Bytes) (state : CustomState) : JudgeTaskMessage where
  messageId := request.messageId
  target := some (.custom taskId)
  questionId := state.questionId
  createdAt := state.createdAt

/-- After `GetCachedStringByAnyKey`, for a guest's task. -/
def afterRead (taskId : Bytes) (encoded : Option Bytes) : Stage :=
  match encoded.bind setting.parseState with
  | none => .looking
  | some state =>
    if state.transient ∧ state.messageId = request.messageId then
      checkResult setting request now (guestTaskMessage request taskId state) encoded
    else .looking

/-- After `GetOutbox`. -/
def afterLookup (outbox : Option JudgeOutbox) : Stage :=
  match outbox.bind fun row =>
    validateTaskPayload setting.codec row request.toUpdateJudgeResultRequest with
  | none => rejected 404 "JUDGE_TASK_NOT_FOUND"
  | some task => checkResult setting request now task none

/-- The call of `ApplyJudgeResult`. -/
def resultCall (found : Found) (now : DateTime) : ResultCall where
  request := request.toUpdateJudgeResultRequest
  result := found.result
  customExpiresAt := (expiresAt found.task).toNat
  now := now

def appliedOutcome : Answer → ApplyOutcome
  | .applied outcome => outcome
  | _ => .retryableFailure

theorem appliedOutcome_eq {answer : Answer} {outcome : ApplyOutcome}
    (definite : outcome ≠ .retryableFailure) (same : appliedOutcome answer = outcome) :
    answer = .applied outcome := by
  cases answer with
  | applied outcome' =>
    obtain rfl : outcome' = outcome := same
    rfl
  | _ => exact absurd same.symm definite

/-- The seconds that the state of a custom task is kept; `now` is in microseconds. -/
def cacheTtl (task : JudgeTaskMessage) (now : Int) : Int :=
  (Int32.ofInt ((expiresAt task - now).tdiv 1000000)).toInt

/-- What the handler sets in the state of a custom task. -/
def finishedMembers (found : Found) (taskId resultJson : Bytes) : List (String × Scalar) :=
  [("task_id", .string taskId), ("message_id", .string request.messageId),
    ("user_id", .int found.task.userId.toNat), ("status", .string found.result.status.name),
    ("expires_at", .int ((expiresAt found.task).tdiv 1000000)), ("result_json", .string resultJson)]

/-- The text that the handler writes; the state of a guest's task keeps its other members. -/
def finishedState (found : Found) (taskId resultJson : Bytes) : Bytes :=
  let state := (found.transient.bind setting.json.read).getD []
  setting.json.write (state.assign (finishedMembers request found taskId resultJson))

def afterWrite (response : Response) (written : Bool) : Stage :=
  if written then .responded response else retryable 503 "REDIS_ERROR"

end Handler

end OnlineJudge.Callback
