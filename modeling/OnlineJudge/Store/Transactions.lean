import OnlineJudge.Store.Tables

/-!
# The methods of `ModelSubmission`

Each method of `ModelSubmission` (`model_submission.hpp`) is one transaction; `ApplyJudgeResult`
goes on with a second one, `GetResultReceipt`, after an error.  Clock readings are arguments.
-/

namespace OnlineJudge.Store

open Delivery RepeatableRead

structure CreateCall where
  userId : UInt32
  questionId : Bytes
  code : Bytes
  language : Bytes
  task : JudgeTaskMessage
  now : DateTime

/-- The arguments of `ClaimPendingOutbox`; `completedAt` is the clock when the submission
of a message is given up. -/
structure ClaimCall where
  limit : Nat
  owner : String
  leaseSeconds : UInt32
  confirmTimeoutSeconds : UInt32
  now : DateTime
  completedAt : Bytes → DateTime

structure SettleCall where
  messageId : Bytes
  owner : String
  published : Bool
  retryDelaySeconds : UInt32
  now : DateTime

structure ResultCall where
  request : UpdateJudgeResultRequest
  result : JudgeResult
  customExpiresAt : Nat
  now : DateTime

inductive Call
  | create (call : CreateCall)
  | createCustom (task : JudgeTaskMessage) (now : DateTime)
  | claim (call : ClaimCall)
  | settle (call : SettleCall)
  | apply (call : ResultCall)

inductive Answer
  | created (submissionId : Option UInt64)
  | claimed (rows : Option (List (Bytes × JudgeOutbox)))
  | success (ok : Bool)
  | applied (outcome : ApplyOutcome)
  deriving DecidableEq

abbrev TableTransaction := Transaction Row Answer

abbrev TableProcedure := Procedure Row Answer

section Methods

variable (codec : Codec)

/-- The key that `AUTO_INCREMENT` gives a submission. -/
abbrev submissionKey (n : Nat) : Key := .submission (UInt64.ofNat n)

variable (call : CreateCall)

def CreateCall.submission : Submission where
  userId := call.userId
  questionId := call.questionId
  code := some call.code
  language := some call.language
  status := .queued
  createdAt := call.now

def CreateCall.namedTask (id : UInt64) : JudgeTaskMessage :=
  { call.task with target := some (.submission id) }

def CreateCall.outbox (id : UInt64) (payload : Bytes) : JudgeOutbox where
  submissionId := some id
  payload := payload
  createdAt := call.now

/-- `task.has_custom_task_id()`. -/
def hasCustomTaskId (task : JudgeTaskMessage) : Bool := task.target matches some (.custom _)

def createSubmissionWithOutbox : TableProcedure :=
  if call.userId = 0 ∨ call.questionId = [] ∨ call.task.messageId = [] ∨
      hasCustomTaskId call.task then .done (.created none)
  else
    .transaction
      (.persistAuto submissionKey (fun _ => call.submission) fun n =>
        match codec.serializeTask (call.namedTask (UInt64.ofNat n)) with
        | none => .rollback (.created none)
        | some payload =>
          .persist (.outbox call.task.messageId) (call.outbox (UInt64.ofNat n) payload)
            (.commit (.created (some (UInt64.ofNat n)))))
      (.done (.created none))

def createCustomOutbox (task : JudgeTaskMessage) (now : DateTime) : TableProcedure :=
  match task.target with
  | some (.custom id) =>
    if task.messageId = [] ∨ id = [] then .done (.success false)
    else
      match codec.serializeTask task with
      | none => .done (.success false)
      | some payload =>
        .transaction
          (.persist (.outbox task.messageId)
            { customTaskId := some id, payload := payload, createdAt := now }
            (.commit (.success true)))
          (.done (.success false))
  | _ => .done (.success false)

def markOutboxTerminal (call : ClaimCall) (messageId : Bytes) (row : JudgeOutbox)
    (next : TableTransaction) : TableTransaction :=
  .update (.outbox messageId) row.terminal
    (match row.submissionId with
    | none => next
    | some id =>
      .find (.submission id) fun found : Option Submission =>
        match found with
        | none => next
        | some submission =>
          if waiting submission.status then
            .update (.submission id)
              (terminalSubmission submission (terminalReason (row.expired call.now))
                (call.completedAt messageId)) next
          else next)

/-- The row that a call of `ClaimPendingOutbox` leaves for its owner. -/
def ClaimCall.claimed (call : ClaimCall) (row : JudgeOutbox) : JudgeOutbox :=
  row.claimed call.owner call.leaseSeconds call.confirmTimeoutSeconds call.now

/-- The loop of `ClaimPendingOutbox` over the rows of its query; `rows` are those it has
claimed. -/
def claimLoop (call : ClaimCall) :
    List ((k : Key) × Row k) → List (Bytes × JudgeOutbox) → TableTransaction
  | [], rows => .commit (.claimed (some rows))
  | ⟨.outbox messageId, row⟩ :: rest, rows =>
    if JudgeOutbox.givenUp call.now row then
      markOutboxTerminal call messageId row (claimLoop call rest rows)
    else
      let claimed := call.claimed row
      .update (.outbox messageId) claimed
        (if (rows ++ [(messageId, claimed)]).length ≥ call.limit then
          .commit (.claimed (some (rows ++ [(messageId, claimed)])))
        else claimLoop call rest (rows ++ [(messageId, claimed)]))
  | _ :: rest, rows => claimLoop call rest rows

def ClaimCall.matching (call : ClaimCall) : (k : Key) → Row k → Bool
  | .outbox _, row => JudgeOutbox.claimable call.now row
  | _, _ => false

def claimPendingOutbox (call : ClaimCall) : TableProcedure :=
  if call.limit = 0 ∨ call.owner = "" then .done (.claimed none)
  else
    .transaction (.lockRows call.matching call.limit fun rows => claimLoop call rows [])
      (.done (.claimed none))

def updateOutbox (call : SettleCall) : TableProcedure :=
  if call.messageId = [] ∨ call.owner = "" then .done (.success false)
  else
    .transaction
      (.find (.outbox call.messageId) fun found : Option JudgeOutbox =>
        match found with
        | none => .rollback (.success false)
        | some row =>
          if row.heldBy call.owner then
            .update (.outbox call.messageId)
              (row.settled call.published call.retryDelaySeconds call.now)
              (.commit (.success true))
          else .rollback (.success false))
      (.done (.success false))

/-- `GetOutbox`; `none` where it returns `false`. -/
def getOutbox (messageId : Bytes) : Procedure Row (Option JudgeOutbox) :=
  if messageId = [] then .done none
  else
    .transaction
      (.find (.outbox messageId) fun found : Option JudgeOutbox =>
        match found with
        | none => .rollback none
        | some row => .commit (some row))
      (.done none)

/-- The transaction of `GetResultReceipt`, with the comparison that the exception handler
of `ApplyJudgeResult` makes of its result. -/
def recoverBody (request : UpdateJudgeResultRequest) : TableTransaction :=
  .find (.receipt request.messageId) fun found : Option JudgeResultReceipt =>
    match found with
    | none => .rollback (.applied .retryableFailure)
    | some receipt => .commit (.applied (compareReceipt receipt request))

def recoverApply (request : UpdateJudgeResultRequest) : TableProcedure :=
  if request.messageId = [] then .done (.applied .retryableFailure)
  else .transaction (recoverBody request) (.done (.applied .retryableFailure))

def applyToSubmission (call : ResultCall) (id : UInt64) (submission : Submission) :
    TableTransaction :=
  match codec.messageToJson call.result with
  | none => .rollback (.applied .retryableFailure)
  | some json =>
    .update (.submission id) (appliedSubmission submission call.result json call.now)
      (.persistAuto .history
        (fun _ => historyLine submission call.result json call.now) fun _ =>
        .persist (.receipt call.request.messageId)
          (newReceipt call.request call.customExpiresAt (.submission id))
          (.commit (.applied .persisted)))

def applyBody (call : ResultCall) : TableTransaction :=
  .find (.receipt call.request.messageId) fun existing : Option JudgeResultReceipt =>
    match existing with
    | some receipt => .rollback (.applied (compareReceipt receipt call.request))
    | none =>
      match call.request.target with
      | some (.submission id) =>
        .find (.submission id) fun found : Option Submission =>
          match found with
          | none => .rollback (.applied .notFound)
          | some submission => applyToSubmission codec call id submission
      | some (.custom id) =>
        .persist (.receipt call.request.messageId)
          (newReceipt call.request call.customExpiresAt (.custom id))
          (.commit (.applied .persisted))
      | none => .rollback (.applied .conflict)

def applyJudgeResult (call : ResultCall) : TableProcedure :=
  .transaction (applyBody codec call) (recoverApply call.request)

end Methods

/-- All methods.  Tasks that are created come out of a parsed request and of text columns; a result
is applied after `UpdateJudgeResult` has found the outbox row of the task. -/
def workload (codec : Codec) : Workload Row Answer where
  Call := Call
  procedure
    | .create call => createSubmissionWithOutbox codec call
    | .createCustom task now => createCustomOutbox codec task now
    | .claim call => claimPendingOutbox call
    | .settle call => updateOutbox call
    | .apply call => applyJudgeResult codec call
  admits db
    | .create call => call.task.textual
    | .createCustom task _ => task.textual
    | .apply call =>
      (Tables.outbox db call.request.messageId).any fun row =>
        (validateTaskPayload codec row call.request).isSome && finalStatus call.result.status
    | _ => true

end OnlineJudge.Store
