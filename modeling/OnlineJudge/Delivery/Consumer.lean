import Mathlib.Data.List.OfFn
import OnlineJudge.Common.Decimal
import OnlineJudge.Delivery.Policy
import OnlineJudge.Inbox.Safety

/-!
# One delivery of a judge task

`JudgeConsumer::HandleMessage` (`mq_consumer.hpp`) claims a message in the inbox, runs the judge,
completes the message and reports the result.  Parsing, serialization and SHA-256 are parameters
(`Setting`).
-/

namespace OnlineJudge.Delivery

open Inbox

/-! ## What becomes of a delivery -/

/-- `calculated_timeout` of `HandleMessage`, in milliseconds. -/
def calculatedTimeout (task : JudgeTaskMessage) : Nat :=
  15000 + task.testCases.length * (task.timeLimitMs.toNat + 6000)

/-- The call to `MQConsumer` that ends a delivery. -/
inductive Disposition
  | ack
  | retry (delayMs : Nat) (retryCount : UInt32)
  | deadLetter (retryCount : UInt32)
  deriving DecidableEq

/-- `RetryOrDeadLetter`, which never dead-letters: after three retries it waits
longer. -/
def retryOrDeadLetter (retryCount : UInt32) (retryAfterMs : Nat) : Disposition :=
  if resolveDeliveryAction .retry retryCount = .deadLetter then
    .retry (max retryAfterMs 30000) (retryCount + 1)
  else .retry retryAfterMs (retryCount + 1)

structure ReportResult where
  decision : ReportDecision := .retry
  retryAfterMs : Nat := 1000
  deriving DecidableEq

/-- `FinishDelivery`, after the report. -/
def finishDelivery (reported : ReportResult) (retryCount : UInt32) : Disposition :=
  let action := resolveDeliveryAction reported.decision retryCount
  if action = .ack then .ack
  else if action = .deadLetter ∧ reported.decision = .reject then .deadLetter retryCount
  else retryOrDeadLetter retryCount reported.retryAfterMs

/-! ## The setting -/

/-- The serialization of `JudgeResult`.  Parsing what was serialized and
serializing it again gives the same bytes. -/
structure ResultCodec where
  /-- `SerializeToString`; it fails, for instance, on a message that is too large. -/
  serialize : JudgeResult → Option Bytes
  /-- `ParseFromString`. -/
  parse : Bytes → Option JudgeResult
  serialize_parse : ∀ {result parsed : JudgeResult} {payload : Bytes},
    serialize result = some payload → parse payload = some parsed → serialize parsed = some payload

abbrev Digest := Fin 32 → UInt8

structure Setting where
  /-- `ParseFromString` of `JudgeTaskMessage`. -/
  parseTask : Bytes → Option JudgeTaskMessage
  codec : ResultCodec
  sha256 : Bytes → Digest
  completedTtlMs : Nat
  messageId : Bytes

/-! ## The fingerprint -/

def payloadFingerprint (sha256 : Bytes → Digest) (payload : Bytes) : String :=
  String.ofList ((toHex (List.ofFn (sha256 payload))).map Char.ofUInt8)

theorem ofUInt8_injective : Function.Injective Char.ofUInt8 := fun _ _ same =>
  UInt8.toUInt32_inj.mp (congrArg Char.val same)

theorem sha256_eq_of_payloadFingerprint_eq {sha256 : Bytes → Digest} {first second : Bytes}
    (same : payloadFingerprint sha256 first = payloadFingerprint sha256 second) :
    sha256 first = sha256 second := by
  have digits := List.map_injective_iff.mpr ofUInt8_injective (String.ofList_injective same)
  exact List.ofFn_injective (toHex_injective digits)

/-! ## The handler -/

/-- What `HandleMessage` knows about its delivery.  `terminal` is the result that
a malformed task gets without being judged. -/
structure TaskDelivery where
  body : Bytes
  retryCount : UInt32
  task : JudgeTaskMessage
  terminal : Option JudgeResult
  deriving DecidableEq

/-- `message UpdateJudgeResultRequest`, without its authentication. -/
structure UpdateJudgeResultRequest where
  messageId : Bytes
  target : Option Target
  resultPayload : Bytes
  deriving DecidableEq

inductive Handler
  | idle
  /-- Before `_inbox.Claim`. -/
  | claiming (delivery : TaskDelivery)
  | judging (delivery : TaskDelivery) (claimToken : String)
  /-- Before `_inbox.Complete`. -/
  | completing (delivery : TaskDelivery) (claimToken : String) (result : JudgeResult)
  /-- In `FinishDelivery`, before the request is sent; `callback` says whether the completion
  callback has called it. -/
  | reporting (delivery : TaskDelivery) (result : JudgeResult) (callback : Bool)
  | awaiting (delivery : TaskDelivery) (callback : Bool)
  | settled (disposition : Disposition)
  deriving DecidableEq

def terminalResult (now : Int) : JudgeResult :=
  { status := .systemError
    compileError := text "invalid judge task payload"
    completedAt := now }

variable (setting : Setting)

/-- `HandleMessage` up to its call of `Claim`. -/
def receive (body : Bytes) (retryCount : UInt32) (now : Int) : Handler :=
  match setting.parseTask body with
  | none => .settled (.deadLetter retryCount)
  | some task =>
    if task.messageId.length > 256 ∨ validJudgeTask task = false then
      if task.messageId ≠ [] ∧ task.messageId.length ≤ 256 ∧ task.target ≠ none then
        .claiming ⟨body, retryCount, task, some (terminalResult now)⟩
      else .settled (.deadLetter retryCount)
    else .claiming ⟨body, retryCount, task, none⟩

def TaskDelivery.leaseMs (delivery : TaskDelivery) : UInt32 :=
  match delivery.terminal with
  | some _ => 60000
  | none => UInt32.ofNat (min (calculatedTimeout delivery.task + 30000) 3600000)

inductive ScriptFate
  | answered
  | replyLost
  | notExecuted
  deriving DecidableEq

def TaskDelivery.fingerprint (delivery : TaskDelivery) : String :=
  payloadFingerprint setting.sha256 delivery.body

variable (inbox : InboxState)

/-- `JudgeInbox::Claim`; `owner` is what `RandomToken` returned. -/
def callClaim (delivery : TaskDelivery) (owner : String) (fate : ScriptFate) :
    InboxState × ClaimResult :=
  let fingerprint := delivery.fingerprint setting
  if delivery.task.messageId = [] ∨ fingerprint = "" ∨ delivery.leaseMs = 0 ∨ owner = "" then
    (inbox, .error)
  else
    let (reply, after) := inbox.claim fingerprint owner delivery.leaseMs
    match fate with
    | .answered => (after, readClaimReply setting.codec.parse (some reply))
    | .replyLost => (after, readClaimReply setting.codec.parse none)
    | .notExecuted => (inbox, readClaimReply setting.codec.parse none)

def callComplete (delivery : TaskDelivery) (claimToken : String) (result : JudgeResult)
    (fate : ScriptFate) :
    InboxState × CompleteResult :=
  let fingerprint := delivery.fingerprint setting
  match setting.codec.serialize result with
  | none => (inbox, .error)
  | some payload =>
    if delivery.task.messageId = [] ∨ fingerprint = "" ∨ claimToken = "" then (inbox, .error)
    else
      let (reply, after) :=
        inbox.complete setting.completedTtlMs fingerprint claimToken payload
      match fate with
      | .answered => (after, readCompleteReply (some reply))
      | .replyLost => (after, readCompleteReply none)
      | .notExecuted => (inbox, readCompleteReply none)

theorem callClaim_cases (delivery : TaskDelivery) (owner : String) (fate : ScriptFate) :
    ((callClaim setting inbox delivery owner fate).1 = inbox ∨
      (callClaim setting inbox delivery owner fate).1 =
        (inbox.claim (delivery.fingerprint setting) owner delivery.leaseMs).2) ∧
    ∀ result, (callClaim setting inbox delivery owner fate).2 = .completed result →
      ∃ payload, setting.codec.parse payload = some result ∧
        (inbox.claim (delivery.fingerprint setting) owner delivery.leaseMs).1 =
          .completed (some payload) := by
  simp only [callClaim]
  split
  · exact ⟨.inl rfl, nofun⟩
  cases fate with
  | replyLost => exact ⟨.inr rfl, nofun⟩
  | notExecuted => exact ⟨.inl rfl, nofun⟩
  | answered =>
    refine ⟨.inr rfl, fun result replied => ?_⟩
    dsimp only at replied
    unfold readClaimReply at replied
    split at replied <;> try cases replied
    case h_4 payload answer =>
      split at replied <;> cases replied
      case h_1 parsed => exact ⟨payload, parsed, Option.some.inj answer⟩

theorem callComplete_cases (delivery : TaskDelivery) (claimToken : String) (result : JudgeResult)
    (fate : ScriptFate) :
    ((callComplete setting inbox delivery claimToken result fate).1 = inbox ∧
      (callComplete setting inbox delivery claimToken result fate).2 ≠ .completed) ∨
    ∃ payload, setting.codec.serialize result = some payload ∧
      (callComplete setting inbox delivery claimToken result fate).1 =
        (inbox.complete setting.completedTtlMs (delivery.fingerprint setting) claimToken
          payload).2 ∧
      ((callComplete setting inbox delivery claimToken result fate).2 = .completed →
        (inbox.complete setting.completedTtlMs (delivery.fingerprint setting) claimToken
          payload).1 = .completed) := by
  simp only [callComplete]
  cases serialized : setting.codec.serialize result with
  | none => exact .inl ⟨rfl, nofun⟩
  | some payload =>
    dsimp only
    split
    · exact .inl ⟨rfl, nofun⟩
    cases fate with
    | replyLost => exact .inr ⟨payload, rfl, rfl, nofun⟩
    | notExecuted => exact .inl ⟨rfl, nofun⟩
    | answered =>
      refine .inr ⟨payload, rfl, rfl, fun replied => ?_⟩
      dsimp only at replied
      unfold readCompleteReply at replied
      split at replied <;> try cases replied
      case h_2 answer => exact Option.some.inj answer

variable {setting : Setting} {delivery : TaskDelivery} {inbox : InboxState} {fate : ScriptFate}
    {result : JudgeResult}

theorem callClaim_conflict {owner : String}
    (conflict : (callClaim setting inbox delivery owner fate).2 = .conflict) :
    (inbox.claim (delivery.fingerprint setting) owner delivery.leaseMs).1 = .conflict := by
  simp only [callClaim] at conflict
  split at conflict
  · cases conflict
  cases fate with
  | replyLost | notExecuted => cases conflict
  | answered =>
    dsimp only at conflict
    unfold readClaimReply at conflict
    split at conflict <;> try cases conflict
    case h_4 => split at conflict <;> cases conflict
    case h_6 answer => exact Option.some.inj answer

theorem callComplete_conflict {claimToken : String}
    (conflict : (callComplete setting inbox delivery claimToken result fate).2 = .conflict) :
    ∃ payload, (inbox.complete setting.completedTtlMs (delivery.fingerprint setting) claimToken
      payload).1 = .conflict := by
  simp only [callComplete] at conflict
  cases serialized : setting.codec.serialize result with rw [serialized] at conflict
  | none =>
    cases conflict
  | some payload =>
    dsimp only at conflict
    split at conflict
    · cases conflict
    cases fate with
    | replyLost | notExecuted => cases conflict
    | answered =>
      dsimp only at conflict
      unfold readCompleteReply at conflict
      split at conflict <;> try cases conflict
      case h_3 answer => exact ⟨payload, Option.some.inj answer⟩

/-- `HandleMessage` after its call of `Claim`. -/
def afterClaim (delivery : TaskDelivery) (claimToken : String) : ClaimResult → Handler
  | .completed result => .reporting delivery result false
  | .processing retryAfterMs => .settled (retryOrDeadLetter delivery.retryCount retryAfterMs)
  | .conflict => .settled (.deadLetter delivery.retryCount)
  | .error => .settled (retryOrDeadLetter delivery.retryCount 1000)
  | .started =>
    match delivery.terminal with
    | some terminal => .completing delivery claimToken terminal
    | none => .judging delivery claimToken

/-- After the call of `Complete`, in `HandleMessage` for a malformed task and in
the completion callback for a judged one.  Only the callback tells a conflict from
other failures. -/
def afterComplete (delivery : TaskDelivery) (result : JudgeResult) : CompleteResult → Handler
  | .completed => .reporting delivery result delivery.terminal.isNone
  | .conflict =>
    match delivery.terminal with
    | some _ => .settled (retryOrDeadLetter delivery.retryCount 1000)
    | none => .settled (.deadLetter delivery.retryCount)
  | .notOwner | .error => .settled (retryOrDeadLetter delivery.retryCount 1000)

/-- `ResultReporter::Report` up to the remote call: the request, or the result of a
report that sends none.  `stub` and `nonce` say whether the stub exists and the
random nonce was drawn. -/
def prepareReport (setting : Setting) (stub nonce : Bool) (task : JudgeTaskMessage)
    (result : JudgeResult) : Except ReportResult UpdateJudgeResultRequest :=
  if !stub then .error {}
  else
    match task.target with
    | none => .error ⟨.reject, 0⟩
    | some target =>
      match setting.codec.serialize result with
      | none => .error ⟨.reject, 0⟩
      | some payload => if !nonce then .error {} else .ok ⟨task.messageId, some target, payload⟩

theorem prepareReport_ok {stub nonce : Bool} {task : JudgeTaskMessage}
    {request : UpdateJudgeResultRequest}
    (prepared : prepareReport setting stub nonce task result = .ok request) :
    ∃ target payload, task.target = some target ∧
      setting.codec.serialize result = some payload ∧
      request = ⟨task.messageId, some target, payload⟩ := by
  unfold prepareReport at prepared
  split at prepared
  · cases prepared
  split at prepared
  · cases prepared
  case h_2 target targeted =>
    split at prepared
    · cases prepared
    case h_2 payload serialized =>
      split at prepared
      · cases prepared
      · exact ⟨target, payload, targeted, serialized, (Except.ok.inj prepared).symm⟩

inductive PersistenceOutcome
  | unspecified
  | persisted
  | idempotent
  | rejected
  | retryableFailure
  deriving DecidableEq

/-- `ResultReporter::Report` after the remote call; `none` is a transport failure. -/
def readResponse : Option (PersistenceOutcome × Nat) → ReportResult
  | none => {}
  | some (.persisted, _) | some (.idempotent, _) => ⟨.ack, 0⟩
  | some (.rejected, _) => ⟨.reject, 0⟩
  | some (.retryableFailure, retryAfterMs) | some (.unspecified, retryAfterMs) =>
    ⟨.retry, if retryAfterMs = 0 then 1000 else retryAfterMs⟩

/-- An exception: `HandleMessage` catches it and retries, while the event loop
drops what the completion callback throws. -/
def afterException : Handler → Handler
  | .claiming delivery | .judging delivery _ =>
    .settled (retryOrDeadLetter delivery.retryCount 1000)
  | .completing delivery _ _ =>
    match delivery.terminal with
    | some _ => .settled (retryOrDeadLetter delivery.retryCount 1000)
    | none => .idle
  | .reporting delivery _ callback | .awaiting delivery callback =>
    if callback then .idle else .settled (retryOrDeadLetter delivery.retryCount 1000)
  | handler => handler

end OnlineJudge.Delivery
