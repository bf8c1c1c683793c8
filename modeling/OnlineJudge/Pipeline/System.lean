import OnlineJudge.Callback.Handler
import OnlineJudge.Delivery.Agreement
import OnlineJudge.Store.Conclusions

/-!
# The pipeline of one message

The sessions of `ModelSubmission` (`Store`), the judges with the inbox in Redis (`Delivery`), and
the calls of `UpdateJudgeResult` that handle their requests (`Callback`), as one system.  A request
may be handled at any later time; strings in Redis may vanish at any time.
-/

namespace OnlineJudge.Pipeline

open Delivery Store Callback RepeatableRead

structure PipelineSetting where
  judge : Setting
  service : ServiceSetting
  keyId : Bytes
  secret : Bytes
  parseTask : service.codec.parseTask = judge.parseTask
  parseResult : service.parseResult = judge.codec.parse

structure PipelineSetting.KeyShared (setting : PipelineSetting) : Prop where
  keyId : setting.service.configuredId = some setting.keyId
  secret : setting.service.configuredSecret = some setting.secret
  present : setting.secret ≠ []
  length : ∀ secret text, (setting.service.hmac secret text).length = 32

/-- `ResultReporter::Report` signs its request. -/
def sign (setting : PipelineSetting) (request : UpdateJudgeResultRequest) (timestamp : Int64)
    (nonce : Bytes) : SignedRequest :=
  let auth : ServiceAuthentication :=
    { keyId := setting.keyId, timestamp := timestamp, nonce := nonce }
  let input := judgeCallbackSigningInput { request with serviceAuth := auth }
  { request with
    serviceAuth := { auth with hmacSha256 := setting.service.hmac setting.secret input } }

theorem verifyCallbackHmac_sign {setting : PipelineSetting} (shared : setting.KeyShared)
    (request : UpdateJudgeResultRequest) (timestamp : Int64) (nonce : Bytes) :
    verifyCallbackHmac setting.service (sign setting request timestamp nonce) = true := by
  have signed : (sign setting request timestamp nonce).serviceAuth.hmacSha256 =
      setting.service.hmac setting.secret
        (judgeCallbackSigningInput (sign setting request timestamp nonce)) := rfl
  have length := shared.length setting.secret
    (judgeCallbackSigningInput (sign setting request timestamp nonce))
  have nonempty : setting.service.hmac setting.secret
      (judgeCallbackSigningInput (sign setting request timestamp nonce)) ≠ [] := by
    intro empty
    rw [empty] at length
    cases length
  have sameId : (sign setting request timestamp nonce).serviceAuth.keyId = setting.keyId := rfl
  simp [verifyCallbackHmac, shared.keyId, shared.secret, verifyJudgeCallbackHmac, signed, length,
    nonempty, sameId, shared.present]

inductive ServiceCall
  | unused
  | sent (request : SignedRequest)
  | handling (request : SignedRequest) (stage : Stage)
  /-- `ApplyJudgeResult` runs in the session. -/
  | persisting (request : SignedRequest) (found : Found) (session : Nat)

/-- The state of the system.  `latest` is the request that the delivery in a slot waits
for. -/
structure PipelineState (setting : PipelineSetting) where
  store : State (workload setting.service.codec)
  cache : Cache := fun _ => none
  judges : DeliveryState := {}
  calls : Nat → ServiceCall := fun _ => .unused
  latest : Nat → Option Nat := fun _ => none
  deadLettered : Bool := false

inductive Operation
  | arrive (now : Int)
  | reserve (fate : ScriptFate)
  | read (now : Int) (fate : ScriptFate)
  /-- `GetOutbox`; `answered` says that its statements are answered. -/
  | lookup (now : Int) (answered : Bool)
  /-- `ApplyJudgeResult` is called. -/
  | apply (session : Nat) (now : DateTime)
  /-- `ApplyJudgeResult` has returned. -/
  | applied
  | invalidate (fates : List ScriptFate)
  | write (now : Int) (fate : ScriptFate)

inductive PipelineEvent (setting : PipelineSetting)
  | store (action : Action (workload setting.service.codec))
  | evict (key : Bytes)
  | judge (event : Event)
  | report (slot number : Nat) (stub : Bool) (timestamp : Int64) (nonce : Bytes)
  | serve (number : Nat) (operation : Operation)
  | respond (slot : Nat)
  | hangUp (slot : Nat)
  /-- `MQConsumer` has settled the delivery: it has acknowledged the message, for a copy once
  the copy was confirmed. -/
  | finish (slot : Nat)

variable {setting : PipelineSetting}

namespace PipelineState

variable (s : PipelineState setting)

def setCall (number : Nat) (call : ServiceCall) : PipelineState setting :=
  { s with calls := Function.update s.calls number call }

def setHandler (slot : Nat) (handler : Handler) : PipelineState setting :=
  { s with judges := s.judges.setHandler slot handler }

def takes : Event → Bool
  | .advance _ | .expire | .claim .. | .judged .. | .complete .. | .raise _ | .crash _ => true
  | .receive _ body _ _ => (Tables.outbox s.store.db setting.judge.messageId).any (·.payload = body)
  | _ => false

end PipelineState

variable (s : PipelineState setting)

def serveStep (number : Nat) :
    Operation → Option (PipelineState setting)
  | .arrive now =>
    match s.calls number with
    | .sent request =>
      some (s.setCall number (.handling request (start setting.service request now)))
    | _ => none
  | .reserve fate =>
    match s.calls number with
    | .handling request .reserving =>
      let (cache, reserved) := s.cache.reserve (nonceKey request) (text "1") fate
      some { s.setCall number (.handling request (afterReserve request reserved)) with
        cache := cache }
    | _ => none
  | .read now fate =>
    match s.calls number with
    | .handling request (.reading taskId) =>
      some (s.setCall number (.handling request (afterRead setting.service request now taskId
        (s.cache.read (customKey taskId) fate))))
    | _ => none
  | .lookup now answered =>
    match s.calls number with
    | .handling request .looking =>
      some (s.setCall number (.handling request (afterLookup setting.service request now
        (if answered then Tables.outbox s.store.db request.messageId else none))))
    | _ => none
  | .apply session now =>
    match s.calls number with
    | .handling request (.applying found) =>
      (sessionStep s.store (.start session (.apply (resultCall request found now)))).map
        fun store => { s.setCall number (.persisting request found session) with
          store := store }
    | _ => none
  | .applied =>
    match s.calls number with
    | .persisting request found session =>
      match s.store.sessions session with
      | .returned _ answer _ =>
        some (s.setCall number (.handling request
          (afterApply setting.service request found (appliedOutcome answer))))
      | _ => none
    | _ => none
  | .invalidate fates =>
    match s.calls number with
    | .handling request (.invalidating found response) =>
      some { s.setCall number (.handling request (.responded response)) with
        cache := invalidateSubmissionCaches s.cache
          (submissionKeys found.task.userId found.task.questionId) fates }
    | _ => none
  | .write now fate =>
    match s.calls number with
    | .handling request (.writing found taskId resultJson response) =>
      let (cache, written) := s.cache.write (customKey taskId)
        (finishedState setting.service request found taskId resultJson)
        (cacheTtl found.task now) fate
      some { s.setCall number (.handling request (afterWrite response written)) with
        cache := cache }
    | _ => none

def answerStep (slot : Nat)
    (response : Option (PersistenceOutcome × Nat)) : Option (PipelineState setting) :=
  match s.judges.handlers slot with
  | .awaiting delivery _ =>
    some (s.setHandler slot (.settled (finishDelivery (readResponse response) delivery.retryCount)))
  | _ => none

def pipelineStep : PipelineEvent setting → Option (PipelineState setting)
  | .store action => (sessionStep s.store action).map fun store => { s with store := store }
  | .evict key => some { s with cache := Function.update s.cache key none }
  | .judge event =>
    if s.takes event then
      (deliveryStep setting.judge s.judges event).map fun judges => { s with judges := judges }
    else none
  | .report slot number stub timestamp nonce =>
    match s.judges.handlers slot, s.calls number with
    | .reporting delivery result callback, .unused =>
      match prepareReport setting.judge stub (decide (nonce ≠ [])) delivery.task result with
      | .error reported =>
        some (s.setHandler slot (.settled (finishDelivery reported delivery.retryCount)))
      | .ok request =>
        some { (s.setHandler slot (.awaiting delivery callback)).setCall number
            (.sent (sign setting request timestamp nonce)) with
          latest := Function.update s.latest slot (some number) }
    | _, _ => none
  | .serve number operation => serveStep s number operation
  | .respond slot =>
    match s.latest slot with
    | some number =>
      match s.calls number with
      | .handling _ (.responded response) =>
        answerStep s slot (some (response.outcome, response.retryAfterMs))
      | _ => none
    | none => none
  | .hangUp slot => answerStep s slot none
  | .finish slot =>
    match s.judges.handlers slot with
    | .settled disposition =>
      some { s.setHandler slot .idle with
        deadLettered := s.deadLettered || disposition matches .deadLetter _ }
    | _ => none

def pipelineSystem (setting : PipelineSetting) (db : Tables) :
    TransitionSystem (PipelineState setting) (PipelineEvent setting) where
  initial := { store := { db := db } }
  step := pipelineStep

end OnlineJudge.Pipeline
