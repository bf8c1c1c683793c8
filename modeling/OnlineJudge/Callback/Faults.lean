import OnlineJudge.Callback.Handler
import OnlineJudge.Library.Alone
import OnlineJudge.Store.Consistency

/-!
# Faults while a callback is handled

`handle` runs `UpdateJudgeResult` with a fate for each command and statement.  A failure while the
task is sought is taken for a task that does not exist.
-/

namespace OnlineJudge.Callback

open Delivery Store RepeatableRead Option Stage Function

/-! ## Runs of the handler -/

structure Service where
  db : Tables
  cache : Cache

structure Faults where
  reserve : ScriptFate := .answered
  read : ScriptFate := .answered
  lookup : List (Fate Key)
  apply : List (Fate Key)
  invalidate : List ScriptFate := []
  write : ScriptFate := .answered

structure Readings where
  receivedAt : Int
  checkedAt : Int
  appliedAt : DateTime
  storedAt : Int

section Run

variable (setting : ServiceSetting) (faults : Faults) (clock : Readings) (request : SignedRequest)

def advance : Stage × Service → Stage × Service
  | (.reserving, service) =>
    let (cache, reserved) := service.cache.reserve (nonceKey request) (text "1") faults.reserve
    (afterReserve request reserved, { service with cache := cache })
  | (.reading taskId, service) =>
    (afterRead setting request clock.checkedAt taskId
      (service.cache.read (customKey taskId) faults.read), service)
  | (.looking, service) =>
    let (found, db) := (getOutbox request.messageId).alone service.db faults.lookup
    (afterLookup setting request clock.checkedAt found, { service with db := db })
  | (.applying found, service) =>
    let (answer, db) := (applyJudgeResult setting.codec
      (resultCall request found clock.appliedAt)).alone service.db faults.apply
    (afterApply setting request found (appliedOutcome answer), { service with db := db })
  | (.invalidating found response, service) =>
    (.responded response,
      { service with
        cache := invalidateSubmissionCaches service.cache
          (submissionKeys found.task.userId found.task.questionId) faults.invalidate })
  | (.writing found taskId resultJson response, service) =>
    let (cache, written) := service.cache.write (customKey taskId)
      (finishedState setting request found taskId resultJson)
      (cacheTtl found.task clock.storedAt) faults.write
    (afterWrite response written, { service with cache := cache })
  | (.responded response, service) => (.responded response, service)

/-- `UpdateJudgeResult`.  Five operations are enough to come to a response. -/
def handle (service : Service) : Stage × Service :=
  (advance setting faults clock request)^[5] (start setting request clock.receivedAt, service)

end Run

/-! ## The calls of `ModelSubmission` -/

/-- The read and the commit of `GetOutbox` are answered. -/
def bothAnswered : List (Fate Key) → Bool
  | .answered _ :: .answered _ :: _ => true
  | _ => false

theorem getOutbox_alone {messageId : Bytes} (named : messageId ≠ []) (db : Tables)
    (fates : List (Fate Key)) :
    (getOutbox messageId).alone db fates =
      (if bothAnswered fates then db.outbox messageId else none, db) := by
  unfold getOutbox
  rw [if_neg named]
  cases found : db.outbox messageId with
  | none =>
    have shown : (db (.outbox messageId) : Option JudgeOutbox) = none := found
    rcases fates with _ | ⟨_ | _ | _, fates⟩ <;>
      simp [Procedure.alone, Transaction.alone, perform, executed, shown]
  | some row =>
    have shown : (db (.outbox messageId) : Option JudgeOutbox) = some row := found
    rcases fates with _ | ⟨_ | _ | _, _ | ⟨_ | _ | _, fates⟩⟩ <;>
      simp [Procedure.alone, Transaction.alone, perform, executed, bothAnswered, shown]

structure Applicable (request : UpdateJudgeResultRequest) (db : Tables) : Prop where
  target : request.target ≠ none
  submission : ∀ id, request.target = some (.submission id) → (db.submission id).isSome = true
  receipt : ∀ receipt, db.receipt request.messageId = some receipt →
    receiptMatches receipt request = true

def Receipted (request : UpdateJudgeResultRequest) (db : Tables) : Prop :=
  ∃ receipt, db.receipt request.messageId = some receipt ∧ receiptMatches receipt request = true

/-- `ApplyJudgeResult` asks for a retry, or the result is stored. -/
def AppliedOrRetry (request : UpdateJudgeResultRequest) (answer : Answer) (db : Tables) : Prop :=
  answer = .applied .retryableFailure ∨
    (answer = .applied .persisted ∨ answer = .applied .idempotent) ∧ Receipted request db

theorem Applicable.setReceipt {request : UpdateJudgeResultRequest} {base after : Tables}
    {receipt : JudgeResultReceipt} (applicable : Applicable request base)
    (kept : ∀ id, (base.submission id).isSome = true → (after.submission id).isSome = true)
    (written : after.receipt request.messageId = some receipt)
    (same : receiptMatches receipt request = true) :
    Applicable request after ∧ AppliedOrRetry request (.applied .persisted) after := by
  refine ⟨⟨applicable.target, fun id target => kept id (applicable.submission id target), ?_⟩,
    .inr ⟨.inl rfl, receipt, written, same⟩⟩
  intro receipt' found
  cases written.symm.trans found
  exact same

theorem apply_alone {codec : Codec} {call : ResultCall} {db : Tables}
    (applicable : Applicable call.request db) (fates : List (Fate Key)) :
    AppliedOrRetry call.request ((applyJudgeResult codec call).alone db fates).1
      ((applyJudgeResult codec call).alone db fates).2 := by
  have last : ∀ base, Applicable call.request base →
      AppliedOrRetry call.request (applyJudgeResult codec call).last base :=
    fun _ _ => .inl (last_applyJudgeResult codec call)
  refine (Procedure.alone_ensures ?_ last applicable fates).2
  intro base (applicable : Applicable call.request base)
  -- an existing receipt is the one of the request
  have compared : ∀ receipt, Tables.receipt base call.request.messageId = some receipt →
      AppliedOrRetry call.request (.applied (compareReceipt receipt call.request)) base := by
    intro receipt known
    have same := applicable.receipt receipt known
    exact .inr ⟨.inr (by simp [compareReceipt, same]), receipt, known, same⟩
  refine ⟨?_, every_recoverApply (fun _ => .inl rfl) ?_⟩
  case refine_2 =>
    rintro snapshot receipt rfl known
    exact ⟨applicable, compared receipt known⟩
  cases target : call.request.target with
  | none => exact absurd target applicable.target
  | some goal =>
    cases goal with
    | submission id =>
      have present := applicable.submission id target
      apply wlp_applyBody target
      case compares =>
        rintro snapshot receipt _ rfl known
        exact compared receipt known
      case missing =>
        rintro snapshot _ rfl _ gone
        rw [gone] at present
        cases present
      case fails => exact fun _ _ => .inl rfl
      case gone => exact fun _ => trivial
      case duplicate => exact fun _ => trivial
      case commits =>
        rintro snapshot progress rfl _ applies
        obtain ⟨submission, json, line, _, _, _, _, _, _, _, written⟩ := applies
        refine applicable.setReceipt ?_ (by rw [written]; simp)
          (receiptMatches_newReceipt call.customExpiresAt target rfl)
        intro id' present'
        rw [written]
        by_cases mine : id' = id <;> simp [mine, present']
    | custom id =>
      apply wlp_applyBody_custom target
      case compares =>
        rintro snapshot receipt _ rfl known
        exact compared receipt known
      case duplicate => exact fun _ => trivial
      case commits =>
        rintro snapshot progress rfl _ _ written
        refine applicable.setReceipt ?_ (by rw [written]; simp)
          (receiptMatches_newReceipt call.customExpiresAt target rfl)
        intro id' present'
        rw [written]
        simpa using present'

/-! ## Requests that should be accepted -/

section Accepted

variable {setting : ServiceSetting} {faults : Faults} {clock : Readings} {request : SignedRequest}
  {found : Found} {service : Service}

variable (n : Nat)

theorem iterate_responded (response : Response) :
    (advance setting faults clock request)^[n] (.responded response, service) =
      (.responded response, service) :=
  iterate_fixed rfl n

/-- The result is stored: by a receipt, unless the task is a guest's, and in the cache, if
the task is a custom one. -/
def Stored (setting : ServiceSetting) (request : SignedRequest) (found : Found)
    (service : Service) : Prop :=
  (found.transient = none → Receipted request.toUpdateJudgeResultRequest service.db) ∧
    ∀ taskId, request.target = some (.custom taskId) →
      ∃ resultJson, setting.codec.messageToJson found.result = some resultJson ∧
        service.cache (customKey taskId) =
          some (finishedState setting request found taskId resultJson)

def RetryOrStored (setting : ServiceSetting) (request : SignedRequest) (found : Found)
    (final : Stage × Service) : Prop :=
  ∃ response, final.1 = .responded response ∧
    (response.outcome = .retryableFailure ∨
      (response.outcome = .persisted ∨ response.outcome = .idempotent) ∧
        Stored setting request found final.2)

variable {response : Response}

theorem retryOrStored_retry (retry : response.outcome = .retryableFailure) :
    RetryOrStored setting request found
      ((advance setting faults clock request)^[n] (.responded response, service)) := by
  rw [iterate_responded]
  exact ⟨response, rfl, .inl retry⟩

theorem retryOrStored_stored
    (success : response.outcome = .persisted ∨ response.outcome = .idempotent)
    (stored : Stored setting request found service) :
    RetryOrStored setting request found
      ((advance setting faults clock request)^[n] (.responded response, service)) := by
  rw [iterate_responded]
  exact ⟨response, rfl, .inr ⟨success, stored⟩⟩

theorem retryOrStored_writing {taskId resultJson : Bytes}
    (success : response.outcome = .persisted ∨ response.outcome = .idempotent)
    (target : request.target = some (.custom taskId))
    (converted : setting.codec.messageToJson found.result = some resultJson)
    (receipted : found.transient = none → Receipted request.toUpdateJudgeResultRequest service.db) :
    RetryOrStored setting request found
      ((advance setting faults clock request)^[n + 1]
        (.writing found taskId resultJson response, service)) := by
  rw [iterate_succ_apply]
  simp only [advance, Cache.write]
  split
  · exact retryOrStored_retry n rfl
  cases faults.write with
  | answered =>
    refine retryOrStored_stored n success ⟨receipted, fun taskId' target' => ?_⟩
    obtain rfl : taskId = taskId' := by
      simpa using target.symm.trans target'
    exact ⟨resultJson, converted, by simp⟩
  | replyLost | notExecuted => exact retryOrStored_retry n rfl

theorem retryOrStored_afterApply {outcome : ApplyOutcome} (targeted : request.target ≠ none)
    (applied : outcome = .retryableFailure ∨ (outcome = .persisted ∨ outcome = .idempotent) ∧
      (found.transient = none → Receipted request.toUpdateJudgeResultRequest service.db)) :
    RetryOrStored setting request found
      ((advance setting faults clock request)^[n + 1]
        (afterApply setting request found outcome, service)) := by
  rcases applied with rfl | ⟨success, receipted⟩
  · exact retryOrStored_retry (n + 1) rfl
  cases target : request.target with
  | none => exact absurd target targeted
  | some goal =>
    cases goal with
    | submission =>
      have stored : ∀ cache, Stored setting request found { service with cache := cache } :=
        fun cache => ⟨receipted, fun taskId target' => by rw [target] at target'; cases target'⟩
      rcases success with rfl | rfl
      · simp only [afterApply, target]
        exact retryOrStored_stored n (.inl rfl) (stored _)
      · simp only [afterApply, target]
        exact retryOrStored_stored (n + 1) (.inr rfl) (stored service.cache)
    | custom =>
      cases converted : setting.codec.messageToJson found.result with
      | none =>
        rcases success with rfl | rfl <;>
          · simp only [afterApply, target, converted]
            exact retryOrStored_retry (n + 1) rfl
      | some =>
        rcases success with rfl | rfl
        · simp only [afterApply, target, converted]
          exact retryOrStored_writing n (.inl rfl) target converted receipted
        · simp only [afterApply, target, converted]
          exact retryOrStored_writing n (.inr rfl) target converted receipted

theorem retryOrStored_applying
    (applicable : Applicable request.toUpdateJudgeResultRequest service.db) :
    RetryOrStored setting request found
      ((advance setting faults clock request)^[n + 2] (.applying found, service)) := by
  have applied := @apply_alone setting.codec (resultCall request found clock.appliedAt) service.db
    applicable faults.apply
  rw [iterate_succ_apply]
  refine retryOrStored_afterApply n applicable.target ?_
  rcases applied with retry | ⟨success, receipted⟩
  · exact .inl (congrArg appliedOutcome retry)
  · exact .inr ⟨success.imp (congrArg appliedOutcome) (congrArg appliedOutcome),
      fun _ => receipted⟩

structure Acceptable (setting : ServiceSetting) (clock : Readings) (request : SignedRequest)
    (service : Service) (found : Found) : Prop where
  fields : fieldsPresent request = true
  fresh : recent request clock.receivedAt = true
  signed : verifyCallbackHmac setting request = true
  unused : service.cache (nonceKey request) = none
  parsed : setting.parseResult request.resultPayload = some found.result
  final : finalStatus found.result.status = true
  unexpired : hasCustomTarget request = true → clock.checkedAt < expiresAt found.task
  receipt : ∀ receipt, service.db.receipt request.messageId = some receipt →
    receiptMatches receipt request.toUpdateJudgeResultRequest = true

def Known (setting : ServiceSetting) (request : SignedRequest) (service : Service) (found : Found) :
    Prop :=
  (∃ taskId encoded state, guestTask request = some taskId ∧ found.transient = some encoded ∧
    service.cache (customKey taskId) = some encoded ∧ setting.parseState encoded = some state ∧
    state.transient = true ∧ state.messageId = request.messageId ∧
    found.task = guestTaskMessage request taskId state ∧
    service.db.outbox request.messageId = none) ∨
  (guestTask request = none ∧ found.transient = none ∧
    ∃ row, service.db.outbox request.messageId = some row ∧
      validateTaskPayload setting.codec row request.toUpdateJudgeResultRequest = some found.task)

def searchAnswered (faults : Faults) (request : SignedRequest) : Bool :=
  if (guestTask request).isSome then faults.read = .answered else bothAnswered faults.lookup

theorem retryOrStored_checkResult (targeted : request.target ≠ none)
    (acceptable : Acceptable setting clock request service found)
    (applicable : found.transient = none → Applicable request.toUpdateJudgeResultRequest service.db)
    (cache : Cache) :
    RetryOrStored setting request found
      ((advance setting faults clock request)^[n + 2]
        (checkResult setting request clock.checkedAt found.task found.transient,
          { service with cache := cache })) := by
  have unexpired : ¬(hasCustomTarget request = true ∧ expiresAt found.task ≤ clock.checkedAt) :=
    fun ⟨custom, expired⟩ => absurd (acceptable.unexpired custom) (by omega)
  simp only [checkResult, acceptable.parsed, acceptable.final, Bool.not_true, Bool.false_eq_true,
    if_false, if_neg unexpired]
  cases transient : found.transient with
  | none =>
    simp only [isSome_none, Bool.false_eq_true, if_false]
    rw [← transient]
    exact retryOrStored_applying n (applicable transient)
  | some =>
    simp only [isSome_some, if_true]
    rw [← transient]
    refine retryOrStored_afterApply (n + 1) targeted (.inr ⟨.inl rfl, fun none => ?_⟩)
    rw [transient] at none
    cases none

theorem not_retryOrStored_rejected (n code : Nat) (message : String) :
    ¬RetryOrStored setting request found
      ((advance setting faults clock request)^[n] (rejected code message, service)) := by
  rw [rejected, iterate_responded]
  rintro ⟨response, same, outcome⟩
  obtain rfl := Stage.responded.inj same
  rcases outcome with retry | ⟨stored | stored, _⟩
  · cases retry
  · cases stored
  · cases stored

theorem customKey_ne_nonceKey (taskId : Bytes) (request : SignedRequest) :
    customKey taskId ≠ nonceKey request := by
  intro same
  have words := congrArg (List.take 8) same
  rw [customKey, nonceKey, List.append_assoc, List.append_assoc,
    List.take_append_of_le_length (by decide +kernel),
    List.take_append_of_le_length (by decide +kernel)] at words
  revert words
  decide +kernel

theorem Acceptable.start_eq (acceptable : Acceptable setting clock request service found) :
    start setting request clock.receivedAt = .reserving := by
  simp [start, acceptable.fields, acceptable.fresh, acceptable.signed]

theorem named_of_fieldsPresent (fields : fieldsPresent request = true) :
    request.messageId ≠ [] ∧ request.target ≠ none := by
  simp only [fieldsPresent, Bool.not_eq_true', decide_eq_false_iff_not, not_or] at fields
  refine ⟨fields.1, fun none => fields.2.1 ?_⟩
  rw [none]
  rfl

theorem Acceptable.advance_reserving (acceptable : Acceptable setting clock request service found)
    (answered : faults.reserve = .answered) :
    advance setting faults clock request (.reserving, service) =
      (afterReserve request (some true),
        { service with
          cache := update service.cache (nonceKey request) (some (text "1")) }) := by
  simp [advance, Cache.reserve, acceptable.unused, answered]

theorem retryOrStored_unreserved (fails : faults.reserve ≠ .answered) :
    RetryOrStored setting request found
      ((advance setting faults clock request)^[n + 1] (.reserving, service)) := by
  rw [iterate_succ_apply]
  cases fate : faults.reserve with
  | answered => exact absurd fate fails
  | replyLost | notExecuted =>
    simp only [advance, Cache.reserve, fate]
    exact retryOrStored_retry n rfl

theorem advance_looking (named : request.messageId ≠ []) (cache : Cache) :
    advance setting faults clock request (.looking, { service with cache := cache }) =
      (afterLookup setting request clock.checkedAt
        (if bothAnswered faults.lookup then service.db.outbox request.messageId else none),
        { service with cache := cache }) := by
  simp only [advance, getOutbox_alone named]

theorem applicable_of_validated {codec : Codec} {request : UpdateJudgeResultRequest} {db : Tables}
    {row : JudgeOutbox} {task : JudgeTaskMessage} (targeted : request.target ≠ none)
    (consistent : Consistent codec db)
    (receipt : ∀ receipt, db.receipt request.messageId = some receipt →
      receiptMatches receipt request = true)
    (shown : db.outbox request.messageId = some row)
    (valid : validateTaskPayload codec row request = some task) : Applicable request db := by
  refine ⟨targeted, fun id target => ?_, receipt⟩
  obtain ⟨parsed, sameMessage, _, sameTarget⟩ := validateTaskPayload_eq_some valid
  exact consistent.existing _ row id shown ⟨task, parsed, sameMessage, sameTarget.trans target⟩

theorem retryOrStored_reading_iff {cache : Cache} {taskId encoded : Bytes} {state : CustomState}
    (acceptable : Acceptable setting clock request service found)
    (transient : found.transient = some encoded) (cached : cache (customKey taskId) = some encoded)
    (parsed : setting.parseState encoded = some state) (flagged : state.transient = true)
    (same : state.messageId = request.messageId)
    (task : found.task = guestTaskMessage request taskId state)
    (unknown : service.db.outbox request.messageId = none) :
    RetryOrStored setting request found
        ((advance setting faults clock request)^[4]
          (.reading taskId, { service with cache := cache })) ↔
      faults.read = .answered := by
  obtain ⟨named, targeted⟩ := named_of_fieldsPresent acceptable.fields
  rw [iterate_succ_apply]
  simp only [advance]
  by_cases read : faults.read = .answered
  · refine iff_of_true ?_ read
    simp only [read, Cache.read, cached, afterRead, bind_some, parsed, flagged, same,
      and_self, if_true]
    rw [← task, ← transient]
    refine retryOrStored_checkResult 1 targeted acceptable (fun none => ?_) _
    rw [transient] at none
    cases none
  · refine iff_of_false ?_ read
    -- the handler goes on to the outbox, which does not know guests' tasks
    have missed : cache.read (customKey taskId) faults.read = none := by
      cases fate : faults.read with
      | answered => exact absurd fate read
      | replyLost | notExecuted => rfl
    rw [missed, iterate_succ_apply]
    simp only [afterRead, bind_none, advance_looking named, unknown, ite_self, afterLookup]
    exact not_retryOrStored_rejected 2 404 _

theorem retryOrStored_looking_iff {row : JudgeOutbox}
    (acceptable : Acceptable setting clock request service found)
    (consistent : Consistent setting.codec service.db) (transient : found.transient = none)
    (shown : service.db.outbox request.messageId = some row)
    (valid : validateTaskPayload setting.codec row request.toUpdateJudgeResultRequest =
      some found.task) (cache : Cache) :
    RetryOrStored setting request found
        ((advance setting faults clock request)^[4] (.looking, { service with cache := cache })) ↔
      bothAnswered faults.lookup = true := by
  obtain ⟨named, targeted⟩ := named_of_fieldsPresent acceptable.fields
  rw [iterate_succ_apply, advance_looking named]
  by_cases lookup : bothAnswered faults.lookup = true
  · refine iff_of_true ?_ lookup
    simp only [lookup, if_true, shown, afterLookup, bind_some, valid]
    rw [← transient]
    refine retryOrStored_checkResult 1 targeted acceptable (fun _ => ?_) _
    exact applicable_of_validated targeted consistent acceptable.receipt shown valid
  · refine iff_of_false ?_ lookup
    simp only [lookup, Bool.false_eq_true, if_false, afterLookup, bind_none]
    exact not_retryOrStored_rejected 3 404 _

end Accepted

/-- **Faults and rejections.** Whatever operations fail, a proper request is retried or its result
is stored, exactly when the nonce is not reserved or the search for the task is answered. -/
theorem faults_not_rejected_iff (setting : ServiceSetting) (faults : Faults) (clock : Readings)
    (request : SignedRequest) (service : Service) (found : Found)
    (acceptable : Acceptable setting clock request service found)
    (known : Known setting request service found)
    (consistent : Consistent setting.codec service.db) :
    RetryOrStored setting request found (handle setting faults clock request service) ↔
      faults.reserve ≠ .answered ∨ searchAnswered faults request = true := by
  rw [handle, acceptable.start_eq]
  by_cases answered : faults.reserve = .answered
  case neg => exact iff_of_true (retryOrStored_unreserved 4 answered) (.inl answered)
  rw [iterate_succ_apply, acceptable.advance_reserving answered, answered]
  rw [or_iff_right fun never => never rfl]
  rcases known with ⟨taskId, encoded, state, guest, transient, cached, parsed, flagged, same,
    task, unknown⟩ | ⟨notGuest, transient, row, shown, valid⟩
  · have kept : update service.cache (nonceKey request) (some (text "1"))
        (customKey taskId) = some encoded :=
      (update_of_ne (customKey_ne_nonceKey taskId request) _ _).trans cached
    simp only [afterReserve, guest, searchAnswered, isSome_some, if_true, decide_eq_true_eq]
    exact retryOrStored_reading_iff acceptable transient kept parsed flagged same task unknown
  · simp only [afterReserve, notGuest, searchAnswered, isSome_none, Bool.false_eq_true,
      if_false]
    exact retryOrStored_looking_iff acceptable consistent transient shown valid _

/-! ## A callback during a failure of the database -/

def createdCall : CreateCall where
  userId := 3
  questionId := [1]
  code := [97]
  language := []
  task := Store.sampleTask
  now := 0

def createdTables : Tables :=
  (emptyTables.setSubmission 1 createdCall.submission).setOutbox [7] (createdCall.outbox 1 [1])

theorem consistent_createdTables : Consistent sampleCodec createdTables := by
  have creates : Creates sampleCodec createdCall emptyTables createdTables :=
    ⟨1, [1], by decide, rfl, rfl, rfl⟩
  exact (consistent_emptyTables sampleCodec).create (by decide) creates

def sampleService : ServiceSetting where
  codec := sampleCodec
  parseResult payload := if payload = [9] then some { status := .accepted } else none
  hmac _ _ := List.replicate 32 0
  configuredId := some [107]
  configuredSecret := some [115]
  json := countedJson

def sampleSigned : SignedRequest where
  messageId := [7]
  target := some (.submission 1)
  resultPayload := [9]
  serviceAuth :=
    { keyId := [107]
      timestamp := 1000
      nonce := List.replicate 16 97
      hmacSha256 := List.replicate 32 0 }

def sampleReadings : Readings where
  receivedAt := 1010
  checkedAt := 1010000000
  appliedAt := 1010000000
  storedAt := 1010000000

def sampleFound : Found := ⟨sampleNamedTask, { status := .accepted }, none⟩

theorem acceptable_sampleSigned :
    Acceptable sampleService sampleReadings sampleSigned ⟨createdTables, fun _ => none⟩
      sampleFound where
  fields := by decide +kernel
  fresh := by decide
  signed := by decide +kernel
  unused := rfl
  parsed := rfl
  final := by decide
  unexpired := by decide
  receipt _ found := by cases found

theorem known_sampleSigned :
    Known sampleService sampleSigned ⟨createdTables, fun _ => none⟩ sampleFound :=
  .inr ⟨rfl, rfl, createdCall.outbox 1 [1], rfl, by decide⟩

def lostCommit : Faults where
  lookup := [.answered {}, .answered {}]
  apply := [.answered {}, .answered {}, .answered {}, .answered {}, .answered {}, .replyLost,
    .answered {}, .answered {}]

theorem faults_not_rejected_lostCommit :
    RetryOrStored sampleService sampleSigned sampleFound
      (handle sampleService lostCommit sampleReadings sampleSigned
        ⟨createdTables, fun _ => none⟩) :=
  (faults_not_rejected_iff sampleService lostCommit sampleReadings sampleSigned
    ⟨createdTables, fun _ => none⟩ sampleFound acceptable_sampleSigned known_sampleSigned
    consistent_createdTables).mpr (.inr rfl)

def failedLookup : Faults where
  lookup := [.failed]
  apply := List.replicate 6 (.answered {})

/-- **A failed read is answered as a rejection.** -/
theorem failed_lookup_rejected :
    Acceptable sampleService sampleReadings sampleSigned ⟨createdTables, fun _ => none⟩
        sampleFound ∧
      Known sampleService sampleSigned ⟨createdTables, fun _ => none⟩ sampleFound ∧
      Consistent sampleService.codec createdTables ∧
      (handle sampleService failedLookup sampleReadings sampleSigned
        ⟨createdTables, fun _ => none⟩).1 = rejected 404 "JUDGE_TASK_NOT_FOUND" :=
  ⟨acceptable_sampleSigned, known_sampleSigned, consistent_createdTables, by decide +kernel⟩

example :
    (handle sampleService { failedLookup with lookup := lostCommit.lookup } sampleReadings
      sampleSigned ⟨createdTables, fun _ => none⟩).1 = .responded { outcome := .persisted } := by
  decide +kernel

end OnlineJudge.Callback
