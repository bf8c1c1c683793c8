import OnlineJudge.Delivery.Consumer

/-!
# Applying a reported result

`ModelSubmission::ApplyJudgeResult` (`model_submission.hpp`) stores one receipt per message id.  Two
calls may both find none; the second insertion then fails on the primary key.
-/

namespace OnlineJudge.Delivery

/-- `struct JudgeResultReceipt`: the columns that `ApplyJudgeResult` and
`CleanupExpiredResultReceipts` read. -/
structure JudgeResultReceipt where
  messageId : Bytes
  submissionId : Option UInt64 := none
  customTaskId : Option Bytes := none
  resultPayload : Bytes
  expiresAt : Option Nat := none
  deriving DecidableEq

inductive ApplyOutcome
  | persisted
  | idempotent
  | conflict
  | notFound
  | retryableFailure
  deriving DecidableEq

def receiptMatches (receipt : JudgeResultReceipt) (request : UpdateJudgeResultRequest) : Bool :=
  let sameTarget :=
    match request.target with
    | some (.submission id) => receipt.submissionId = some id
    | some (.custom id) => receipt.customTaskId = some id
    | none => false
  sameTarget && receipt.resultPayload = request.resultPayload

def compareReceipt (receipt : JudgeResultReceipt) (request : UpdateJudgeResultRequest) :
    ApplyOutcome :=
  if receiptMatches receipt request then .idempotent else .conflict

inductive ApplyCall
  | idle
  | finding (request : UpdateJudgeResultRequest) (customExpiresAt : Nat)
  /-- No receipt was found; before `persist` and `commit`. -/
  | inserting (request : UpdateJudgeResultRequest) (receipt : JudgeResultReceipt)
  /-- In the exception handler, before `GetResultReceipt`. -/
  | recovering (request : UpdateJudgeResultRequest)
  | returned (outcome : ApplyOutcome)
  deriving DecidableEq

def newReceipt (request : UpdateJudgeResultRequest) (customExpiresAt : Nat) :
    Target → JudgeResultReceipt
  | .submission id =>
    { messageId := request.messageId
      submissionId := some id
      resultPayload := request.resultPayload }
  | .custom id =>
    { messageId := request.messageId
      customTaskId := some id
      resultPayload := request.resultPayload
      expiresAt := some customExpiresAt }

variable (existing : Option JudgeResultReceipt)

/-- `ApplyJudgeResult` from its look for a receipt to its insertion.  `found` and
`encodes` say whether the submission exists and its result has a JSON text. -/
def applyFind (found encodes : Bool) (request : UpdateJudgeResultRequest) (customExpiresAt : Nat) :
    ApplyCall :=
  match existing with
  | some receipt => .returned (compareReceipt receipt request)
  | none =>
    match request.target with
    | some (.submission id) =>
      if !found then .returned .notFound
      else if !encodes then .returned .retryableFailure
      else .inserting request (newReceipt request customExpiresAt (.submission id))
    | some (.custom id) => .inserting request (newReceipt request customExpiresAt (.custom id))
    | none => .returned .conflict

/-- What the database does with `persist` and `commit`. -/
inductive CommitFate
  | committed
  | replyLost
  | failed
  deriving DecidableEq

/-- `persist` and `commit`: the row afterwards and where the call goes on.  The
message id is the primary key, so an insertion fails where there is a row. -/
def applyInsert (fate : CommitFate) (request : UpdateJudgeResultRequest)
    (receipt : JudgeResultReceipt) :
    Option JudgeResultReceipt × ApplyCall :=
  match existing, fate with
  | none, .committed => (some receipt, .returned .persisted)
  | none, .replyLost => (some receipt, .recovering request)
  | _, _ => (existing, .recovering request)

/-- The exception handler; `readable` says whether `GetResultReceipt` could read. -/
def applyRecover (readable : Bool) (request : UpdateJudgeResultRequest) : ApplyCall :=
  match readable, existing with
  | true, some receipt => .returned (compareReceipt receipt request)
  | _, _ => .returned .retryableFailure

/-- `CleanupExpiredResultReceipts`, on the row of one message id.  A row without an
expiry is kept. -/
def cleanupReceipt (now : Nat) : Option JudgeResultReceipt :=
  existing.filter fun receipt => !receipt.expiresAt.any (· < now)

theorem receiptMatches_newReceipt {first second : UpdateJudgeResultRequest} {target : Target}
    (customExpiresAt : Nat) (sameTarget : second.target = some target)
    (samePayload : first.resultPayload = second.resultPayload) :
    receiptMatches (newReceipt first customExpiresAt target) second = true := by
  cases target <;> simp [receiptMatches, newReceipt, sameTarget, samePayload]

end OnlineJudge.Delivery
