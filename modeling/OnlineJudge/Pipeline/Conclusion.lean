import OnlineJudge.Pipeline.System

/-!
# A dead-lettered submission has its verdict

`JudgeConsumer` dead-letters a delivery when the service rejects the report.  `dependable` excludes
the steps that reject reports of waiting submissions: reports that are too old or do not parse, and
outbox rows that could not be read.
-/

namespace OnlineJudge.Pipeline

open Option

open Inbox Delivery Store Callback RepeatableRead

variable {setting : PipelineSetting}

/-! ## Dependable steps -/

def reportable (setting : PipelineSetting) (result : JudgeResult) : Bool :=
  (setting.judge.codec.serialize result).any fun payload =>
    (setting.judge.codec.parse payload).any fun parsed => finalStatus parsed.status

def dependable (s : PipelineState setting) : PipelineEvent setting → Bool
  | .judge (.receive _ body _ now) =>
    (setting.judge.parseTask body).all fun task =>
      validJudgeTask task || reportable setting (terminalResult now)
  | .judge (.judged _ result) => reportable setting result
  | .serve number (.arrive now) =>
    match s.calls number with
    | .sent request => recent request now
    | _ => true
  | .serve number (.reserve _) =>
    match s.calls number with
    | .handling request .reserving => s.cache (nonceKey request) = none
    | _ => true
  | .serve _ (.lookup _ answered) => answered
  | _ => true

def Presentable (setting : PipelineSetting) (payload : Bytes) : Prop :=
  (∃ result, setting.judge.codec.serialize result = some payload) ∧
    ∃ parsed, setting.judge.codec.parse payload = some parsed ∧ finalStatus parsed.status = true

variable {result : JudgeResult}

theorem presentable_of_reportable (good : reportable setting result = true) :
    ∃ payload, setting.judge.codec.serialize result = some payload ∧
      Presentable setting payload := by
  obtain ⟨payload, serialized, parses⟩ := (any_eq_true _ _).mp good
  obtain ⟨parsed, isParsed, final⟩ := (any_eq_true _ _).mp parses
  exact ⟨payload, serialized, ⟨result, serialized⟩, parsed, isParsed, final⟩

theorem Presentable.reportable {payload : Bytes} (presentable : Presentable setting payload)
    (parsed : setting.judge.codec.parse payload = some result) :
    reportable setting result = true := by
  obtain ⟨⟨original, serialized⟩, parsed', isParsed, final⟩ := presentable
  refine (any_eq_true _ _).mpr ⟨payload, setting.judge.codec.serialize_parse serialized parsed, ?_⟩
  exact (any_eq_true _ _).mpr ⟨parsed', isParsed, final⟩

/-! ## The inbox -/

abbrev Carried (setting : PipelineSetting) (db : Tables) (delivery : TaskDelivery) : Prop :=
  Carries setting.service.codec setting.judge.messageId delivery.body delivery.task db

structure InboxGood (setting : PipelineSetting) (db : Tables) (inbox : InboxState) : Prop where
  inv : InboxInv inbox
  about : inbox.hash.state ≠ none → ∃ body task,
    Carries setting.service.codec setting.judge.messageId body task db ∧
      inbox.hash.fingerprint = some (payloadFingerprint setting.judge.sha256 body)
  stored : ∀ fingerprint payload expiresAt, StoresResult inbox fingerprint payload expiresAt →
    Presentable setting payload

section Inbox

variable {db db' : Tables} {inbox : InboxState} {delivery : TaskDelivery}

section

variable (good : InboxGood setting db inbox)
include good

theorem InboxGood.later (later : Later db db') : InboxGood setting db' inbox := by
  refine ⟨good.inv, fun used => ?_, good.stored⟩
  obtain ⟨body, task, carries, same⟩ := good.about used
  exact ⟨body, task, carries.later later, same⟩

theorem InboxGood.about_delivery (carried : Carried setting db delivery) :
    inbox.hash.About (delivery.fingerprint setting.judge) := by
  intro used
  obtain ⟨body, task, carries, same⟩ := good.about used
  rw [same, TaskDelivery.fingerprint, carries.unique carried]

theorem InboxGood.claim
    (carried : Carried setting db delivery) (owner : String) (fate : ScriptFate) :
    InboxGood setting db (callClaim setting.judge inbox delivery owner fate).1 ∧
      (callClaim setting.judge inbox delivery owner fate).2 ≠ .conflict ∧
      ∀ result, (callClaim setting.judge inbox delivery owner fate).2 = .completed result →
        reportable setting result = true := by
  have about := good.about_delivery carried
  have scripted := about.claim inbox.now owner delivery.leaseMs.toNat (retentionMs delivery.leaseMs)
  obtain ⟨state, results⟩ := callClaim_cases setting.judge inbox delivery owner fate
  refine ⟨?_, fun conflict => scripted.1 (callClaim_conflict conflict), fun result completed => ?_⟩
  · rcases state with same | ran
    · rwa [same]
    · rw [ran]
      refine ⟨good.inv.claim _ owner _, fun used => ?_, fun _ _ _ stores => ?_⟩
      · exact ⟨delivery.body, delivery.task, carried, scripted.2 used⟩
      · exact good.stored _ _ _ (good.inv.stores_of_claim stores)
  · obtain ⟨payload, parsed, replied⟩ := results result completed
    obtain ⟨expiresAt, stores⟩ := good.inv.stores_of_completed replied
    exact (good.stored _ _ _ stores).reportable parsed

theorem InboxGood.complete (carried : Carried setting db delivery) (claimToken : String)
    {result : JudgeResult} (isReportable : reportable setting result = true) (fate : ScriptFate) :
    InboxGood setting db (callComplete setting.judge inbox delivery claimToken result fate).1 ∧
      (callComplete setting.judge inbox delivery claimToken result fate).2 ≠ .conflict := by
  have about := good.about_delivery carried
  have scripted := fun payload =>
    about.complete inbox.now claimToken payload setting.judge.completedTtlMs
  constructor
  · rcases callComplete_cases setting.judge inbox delivery claimToken result fate with
      ⟨same, _⟩ | ⟨payload, serialized, ran, _⟩
    · rwa [same]
    · rw [ran]
      refine ⟨good.inv.complete _ _ claimToken payload, fun used => ?_, fun _ _ _ stores => ?_⟩
      · exact ⟨delivery.body, delivery.task, carried, (scripted payload).2 used⟩
      · rcases good.inv.stores_of_complete stores with before | rfl
        · exact good.stored _ _ _ before
        · obtain ⟨payload', serialized', presentable⟩ := presentable_of_reportable isReportable
          cases serialized.symm.trans serialized'
          exact presentable
  · intro conflict
    obtain ⟨payload, refused⟩ := callComplete_conflict conflict
    exact (scripted payload).1 refused

end

end Inbox

/-! ## The judges -/

def HandlerGood (setting : PipelineSetting) (db : Tables) : Handler → Prop
  | .idle => True
  | .claiming delivery | .judging delivery _ =>
    Carried setting db delivery ∧ ∀ result, delivery.terminal = some result →
      reportable setting result = true
  | .completing delivery _ result | .reporting delivery result _ =>
    Carried setting db delivery ∧ reportable setting result = true
  | .awaiting delivery _ => Carried setting db delivery
  | .settled (.deadLetter _) => Concluded setting.judge.messageId db
  | .settled _ => True

section Handlers

variable {db db' : Tables} {delivery : TaskDelivery} {handler : Handler}

theorem HandlerGood.later (good : HandlerGood setting db handler) (later : Later db db') :
    HandlerGood setting db' handler := by
  cases handler with
  | idle => trivial
  | claiming | judging | completing | reporting => exact ⟨good.1.later later, good.2⟩
  | awaiting => exact Carries.later good later
  | settled disposition =>
    cases disposition with
    | deadLetter => exact Concluded.later good later
    | ack | retry => trivial

theorem handlerGood_retry (retryCount : UInt32) (retryAfterMs : Nat) :
    HandlerGood setting db (.settled (retryOrDeadLetter retryCount retryAfterMs)) := by
  unfold retryOrDeadLetter
  split <;> trivial

theorem handlerGood_finish (reported : ReportResult) (retryCount : UInt32)
    (concluded : reported.decision = .reject → Concluded setting.judge.messageId db) :
    HandlerGood setting db (.settled (finishDelivery reported retryCount)) := by
  unfold finishDelivery
  dsimp only
  split
  · trivial
  split
  case isTrue rejected => exact concluded rejected.2
  case isFalse => exact handlerGood_retry _ _

theorem handlerGood_receive (consistent : Consistent setting.service.codec db) {row : JudgeOutbox}
    (found : Tables.outbox db setting.judge.messageId = some row)
    (named : setting.judge.messageId ≠ []) (short : setting.judge.messageId.length ≤ 256)
    (mine : (setting.judge.parseTask row.payload).all
      (·.messageId = setting.judge.messageId) = true)
    (retryCount : UInt32) {now : Int}
    (terminal : ∀ task, setting.judge.parseTask row.payload = some task →
      validJudgeTask task = false → reportable setting (terminalResult now) = true) :
    HandlerGood setting db (receive setting.judge row.payload retryCount now) := by
  -- a row about a submission has a task that names it
  have concluded : (∀ task, setting.judge.parseTask row.payload = some task →
      task.target = none) → Concluded setting.judge.messageId db := by
    intro untargeted
    refine ⟨row, found, fun id names => ?_⟩
    obtain ⟨task, parsed, _, target⟩ := consistent.column _ _ _ found names
    rw [setting.parseTask] at parsed
    rw [untargeted task parsed] at target
    cases target
  unfold receive
  split
  case h_1 unparsed => exact concluded fun task parsed => by rw [unparsed] at parsed; cases parsed
  case h_2 task parsed =>
    have isMine : task.messageId = setting.judge.messageId := by simpa [parsed] using mine
    have carries : Carries setting.service.codec setting.judge.messageId row.payload task db :=
      ⟨row, found, rfl, by rw [setting.parseTask, parsed], isMine⟩
    split_ifs with malformed reportableTask
    · have invalid := malformed.resolve_left (by rw [isMine]; omega)
      exact ⟨carries, fun result same => Option.some.inj same ▸ terminal task parsed invalid⟩
    · refine concluded fun task' parsed' => ?_
      cases parsed.symm.trans parsed'
      by_contra targeted
      exact reportableTask ⟨by rwa [isMine], by rwa [isMine], targeted⟩
    · exact ⟨carries, nofun⟩

theorem handlerGood_afterClaim (carried : Carried setting db delivery)
    (terminal : ∀ result, delivery.terminal = some result → reportable setting result = true)
    {claimed : ClaimResult} (noConflict : claimed ≠ .conflict)
    (completed : ∀ result, claimed = .completed result → reportable setting result = true)
    (claimToken : String) : HandlerGood setting db (afterClaim delivery claimToken claimed) := by
  cases claimed with
  | completed result => exact ⟨carried, completed result rfl⟩
  | processing | error => exact handlerGood_retry _ _
  | conflict => exact absurd rfl noConflict
  | started =>
    cases isTerminal : delivery.terminal with simp only [afterClaim, isTerminal]
    | none =>
      exact ⟨carried, terminal⟩
    | some result =>
      exact ⟨carried, terminal result isTerminal⟩

theorem handlerGood_afterComplete (carried : Carried setting db delivery) {result : JudgeResult}
    (isReportable : reportable setting result = true) {answer : CompleteResult}
    (noConflict : answer ≠ .conflict) :
    HandlerGood setting db (afterComplete delivery result answer) := by
  cases answer with
  | completed => exact ⟨carried, isReportable⟩
  | conflict => exact absurd rfl noConflict
  | notOwner | error => exact handlerGood_retry _ _

theorem HandlerGood.raise (good : HandlerGood setting db handler) :
    HandlerGood setting db (afterException handler) := by
  cases handler with
  | idle => trivial
  | claiming | judging => exact handlerGood_retry _ _
  | settled => exact good
  | completing =>
    simp only [afterException]
    split
    · exact handlerGood_retry _ _
    · trivial
  | reporting delivery result callback | awaiting delivery callback =>
    cases callback with
    | true => trivial
    | false => exact handlerGood_retry _ _

end Handlers

/-! ## The service -/

structure RequestGood (setting : PipelineSetting) (db : Tables) (request : SignedRequest) :
    Prop where
  carried : ∃ payload task,
    Carries setting.service.codec setting.judge.messageId payload task db ∧
      request.target = task.target
  message : request.messageId = setting.judge.messageId
  targeted : request.target ≠ none
  presentable : Presentable setting request.resultPayload
  signed : verifyCallbackHmac setting.service request = true

def StageGood (setting : PipelineSetting) (db : Tables) : Stage → Prop
  | .invalidating _ response | .writing _ _ _ response | .responded response =>
    response.outcome = .rejected → Concluded setting.judge.messageId db
  | _ => True

section Service

variable {db db' : Tables} {request : SignedRequest}

theorem RequestGood.later (good : RequestGood setting db request) (later : Later db db') :
    RequestGood setting db' request := by
  obtain ⟨payload, task, carries, target⟩ := good.carried
  exact { good with carried := ⟨payload, task, carries.later later, target⟩ }

theorem StageGood.later {stage : Stage} (good : StageGood setting db stage) (later : Later db db') :
    StageGood setting db' stage := by
  cases stage with
  | invalidating | writing | responded => exact fun rejects => (good rejects).later later
  | _ => trivial

theorem stageGood_retryable (code : Nat) (message : String) :
    StageGood setting db (retryable code message) := nofun

theorem RequestGood.concluded_of_custom (good : RequestGood setting db request)
    (consistent : Consistent setting.service.codec db) (custom : hasCustomTarget request = true) :
    Concluded setting.judge.messageId db := by
  obtain ⟨payload, task, carries, target⟩ := good.carried
  unfold hasCustomTarget at custom
  split at custom
  case h_1 id isCustom => exact carries.concluded_of_custom consistent (target.symm.trans isCustom)
  case h_2 => cases custom

theorem stageGood_start (good : RequestGood setting db request) {now : Int}
    (near : recent request now = true) :
    StageGood setting db (start setting.service request now) := by
  unfold start
  rw [near, good.signed]
  split
  · exact nofun
  · trivial

theorem stageGood_afterReserve {reserved : Option Bool} (fresh : reserved ≠ some false) :
    StageGood setting db (afterReserve request reserved) := by
  unfold afterReserve
  split
  · exact absurd rfl fresh
  · exact stageGood_retryable _ _
  · split <;> trivial

theorem stageGood_afterApply {found : Found} {outcome : ApplyOutcome}
    (conflict : outcome = .conflict → Concluded setting.judge.messageId db)
    (present : outcome ≠ .notFound) :
    StageGood setting db (afterApply setting.service request found outcome) := by
  have success : ∀ {response : Response}, response.outcome ≠ .rejected →
      response.outcome = .rejected → Concluded setting.judge.messageId db :=
    fun not rejects => absurd rejects not
  unfold afterApply
  split
  · exact fun _ => conflict rfl
  · exact absurd rfl present
  · exact stageGood_retryable _ _
  all_goals
    dsimp only
    split
    · split <;> exact success (by simp)
    · split <;> exact success (by simp)
    · exact success (by simp)

section

variable (good : RequestGood setting db request) (consistent : Consistent setting.service.codec db)
    (now : Int)
include good consistent

theorem stageGood_checkResult (task : JudgeTaskMessage) (transient : Option Bytes) :
    StageGood setting db (checkResult setting.service request now task transient) := by
  obtain ⟨_, result, parsed, final⟩ := good.presentable
  rw [← setting.parseResult] at parsed
  unfold checkResult
  rw [parsed]
  dsimp only
  rw [final, if_neg (by decide)]
  split_ifs with expired
  · exact fun _ => good.concluded_of_custom consistent expired.1
  · exact stageGood_afterApply nofun (by simp)
  · trivial

theorem stageGood_afterRead (taskId : Bytes) (encoded : Option Bytes) :
    StageGood setting db (afterRead setting.service request now taskId encoded) := by
  unfold afterRead
  split
  · trivial
  split
  · exact stageGood_checkResult good consistent _ _ _
  · trivial

theorem stageGood_afterLookup : StageGood setting db
    (afterLookup setting.service request now (db.outbox request.messageId)) := by
  obtain ⟨payload, task, ⟨row, found, rfl, parsed, isMine⟩, target⟩ := good.carried
  have valid : validateTaskPayload setting.service.codec row
      request.toUpdateJudgeResultRequest = some task := by
    simp [validateTaskPayload, parsed, isMine, good.message, ← target, good.targeted]
  unfold afterLookup
  rw [good.message, found, bind_some, valid]
  exact stageGood_checkResult good consistent _ _ _

end

theorem stageGood_afterWrite {response : Response}
    (good : response.outcome = .rejected → Concluded setting.judge.messageId db)
    (written : Bool) : StageGood setting db (afterWrite response written) := by
  unfold afterWrite
  split
  · exact good
  · exact stageGood_retryable _ _

end Service

/-! ## The invariant -/

def CallGood (setting : PipelineSetting) (store : State (workload setting.service.codec)) :
    ServiceCall → Prop
  | .unused => True
  | .sent request => RequestGood setting store.db request
  | .handling request stage =>
    RequestGood setting store.db request ∧ StageGood setting store.db stage
  | .persisting request _ session =>
    RequestGood setting store.db request ∧ ∃ call,
      (store.sessions session).call = some (.apply call) ∧
        call.request.messageId = setting.judge.messageId

theorem CallGood.later {store store' : State (workload setting.service.codec)} {call : ServiceCall}
    (good : CallGood setting store call) (later : Later store.db store'.db)
    (sessions : ∀ session call, (store.sessions session).call = some call →
      (store'.sessions session).call = some call) : CallGood setting store' call := by
  cases call with
  | unused => trivial
  | sent => exact RequestGood.later good later
  | handling => exact ⟨good.1.later later, good.2.later later⟩
  | persisting request found session =>
    obtain ⟨good, call, isCall, isMine⟩ := good
    exact ⟨good.later later, call, sessions session _ isCall, isMine⟩

structure PipelineInv (s : PipelineState setting) : Prop where
  store : (conclusionOutline setting.service.codec).Sound s.store
  inbox : InboxGood setting s.store.db s.judges.inbox
  handlers : ∀ slot, HandlerGood setting s.store.db (s.judges.handlers slot)
  calls : ∀ number, CallGood setting s.store (s.calls number)
  dead : s.deadLettered = true → Concluded setting.judge.messageId s.store.db

namespace PipelineInv

variable {s t : PipelineState setting}

section

variable (inv : PipelineInv s)
include inv

theorem consistent : Consistent setting.service.codec s.store.db :=
  inv.store.inv.consistent

variable {handler : Handler} {slot number : Nat}

theorem setHandler (slot : Nat) (handler : Handler)
    (good : HandlerGood setting s.store.db handler) : PipelineInv (s.setHandler slot handler) := by
  refine { inv with handlers := fun slot' => ?_ }
  by_cases mine : slot' = slot
  · subst mine
    simpa [PipelineState.setHandler, DeliveryState.setHandler] using good
  · simpa [PipelineState.setHandler, DeliveryState.setHandler, mine] using inv.handlers slot'

theorem setCall (number : Nat) {call : ServiceCall} (good : CallGood setting s.store call) :
    PipelineInv (s.setCall number call) := by
  refine { inv with calls := fun number' => ?_ }
  by_cases mine : number' = number
  · subst mine
    simpa [PipelineState.setCall] using good
  · simpa [PipelineState.setCall, mine] using inv.calls number'

theorem handled {request : SignedRequest} {stage : Stage} (number : Nat)
    (good : RequestGood setting s.store.db request)
    (stageGood : StageGood setting s.store.db stage) :
    PipelineInv (s.setCall number (.handling request stage)) :=
  inv.setCall number ⟨good, stageGood⟩

theorem storeStep {action : Action (workload setting.service.codec)}
    {store : State (workload setting.service.codec)}
    (step : sessionStep s.store action = some store) : PipelineInv { s with store := store } := by
  have allowed : CommitsWhen (fun _ _ _ => True) s.store action :=
    commitsWhen_of_forall (fun _ _ _ => trivial) s.store action
  have later : Later s.store.db store.db := by
    rcases inv.store.db_step allowed step with same | ⟨_, _, _, _, _, _, _, _, _, _, _, stepped⟩
    · rw [same]
      exact .refl _
    · exact stepped
  exact
    { store := inv.store.step allowed step
      inbox := inv.inbox.later later
      handlers := fun slot => (inv.handlers slot).later later
      calls := fun number => (inv.calls number).later later fun _ _ => sessionStep_call step
      dead := fun dead => (inv.dead dead).later later }

theorem setInbox (slot : Nat) {inbox : InboxState} (good : HandlerGood setting s.store.db handler)
    (inboxGood : InboxGood setting s.store.db inbox) :
    PipelineInv
      { s with judges := { s.judges.setHandler slot handler with inbox := inbox } } :=
  { inv.setHandler slot handler good with inbox := inboxGood }

theorem judgeStep (named : setting.judge.messageId ≠ [])
    (short : setting.judge.messageId.length ≤ 256) {event : Event} {judges : DeliveryState}
    (takes : s.takes event = true) (allowed : dependable s (.judge event) = true)
    (step : deliveryStep setting.judge s.judges event = some judges) :
    PipelineInv { s with judges := judges } := by
  cases event with simp only [deliveryStep, handlerStep] at step
  | advance microseconds =>
    cases step
    refine { inv with inbox := ?_ }
    have taken : inboxStep setting.judge.completedTtlMs s.judges.inbox (.advance microseconds) =
      some { s.judges.inbox with clock := s.judges.inbox.clock + microseconds } := rfl
    exact ⟨inv.inbox.inv.step taken, inv.inbox.about, inv.inbox.stored⟩
  | expire =>
    obtain ⟨inbox, expired, rfl⟩ := map_eq_some_iff.mp step
    refine { inv with inbox := ?_ }
    have inboxInv := inv.inbox.inv.step expired
    have free : inbox.hash = {} := by
      rw [inboxStep] at expired
      split at expired
      · split at expired <;> cases expired
        rfl
      · cases expired
    refine ⟨inboxInv, fun used => ?_, fun _ _ _ stores => ?_⟩
    · rw [free] at used
      exact absurd rfl used
    · rw [StoresResult, free] at stores
      cases stores
  | receive slot body retryCount now =>
    split at step <;> [skip; cases step]
    case isTrue free =>
      cases step
      obtain ⟨row, found, same⟩ := (any_eq_true _ _).mp takes
      obtain rfl : row.payload = body := by simpa using same
      have terminal : ∀ task, setting.judge.parseTask row.payload = some task →
          validJudgeTask task = false →
          reportable setting (terminalResult now) = true := by
        intro task parsed invalid
        simpa [dependable, parsed, invalid] using allowed
      exact { inv.setHandler slot _ (handlerGood_receive inv.consistent found named short free.2
        retryCount terminal) with }
  | claim slot owner fate =>
    split at step <;> cases step
    case h_1 delivery isClaiming =>
      have good := inv.handlers slot
      rw [isClaiming] at good
      obtain ⟨inbox, noConflict, completed⟩ := inv.inbox.claim good.1 owner fate
      exact inv.setInbox slot (handlerGood_afterClaim good.1 good.2 noConflict completed owner)
        inbox
  | judged slot result =>
    split at step <;> cases step
    case h_1 delivery claimToken isJudging =>
      have good := inv.handlers slot
      rw [isJudging] at good
      exact inv.setHandler slot (.completing delivery claimToken result) ⟨good.1, allowed⟩
  | complete slot fate =>
    split at step <;> cases step
    case h_1 delivery claimToken result isCompleting =>
      have good := inv.handlers slot
      rw [isCompleting] at good
      obtain ⟨inbox, noConflict⟩ := inv.inbox.complete good.1 claimToken good.2 fate
      exact inv.setInbox slot (handlerGood_afterComplete good.1 good.2 noConflict) inbox
  | raise slot =>
    cases step
    exact inv.setHandler slot _ (inv.handlers slot).raise
  | crash slot =>
    cases step
    exact inv.setHandler slot .idle trivial
  | _ => cases takes

theorem answerStep {response : Option (PersistenceOutcome × Nat)}
    (rejects : ∀ retryAfterMs, response = some (.rejected, retryAfterMs) →
      Concluded setting.judge.messageId s.store.db)
    (step : answerStep s slot response = some t) : PipelineInv t := by
  rw [Pipeline.answerStep] at step
  split at step <;> cases step
  refine inv.setHandler slot _ (handlerGood_finish _ _ fun rejected => ?_)
  unfold readResponse at rejected
  split at rejected <;> try cases rejected
  case h_4 retryAfterMs => exact rejects retryAfterMs rfl

theorem reportStep (shared : setting.KeyShared) {stub : Bool} {timestamp : Int64} {nonce : Bytes}
    (step : pipelineStep s (.report slot number stub timestamp nonce) = some t) :
    PipelineInv t := by
  rw [pipelineStep] at step
  split at step <;> [skip; cases step]
  case h_1 delivery result callback isReporting _ =>
  have good := inv.handlers slot
  rw [isReporting] at good
  obtain ⟨carried, isReportable⟩ := good
  obtain ⟨payload, serialized, presentable⟩ := presentable_of_reportable isReportable
  split at step <;> cases step
  case h_1 reported prepared =>
    refine inv.setHandler slot _ (handlerGood_finish _ _ fun rejected => ?_)
    -- a report is given up before it is sent only where there is no target
    unfold prepareReport at prepared
    split at prepared
    · cases prepared
      cases rejected
    split at prepared
    case h_1 untargeted =>
      obtain ⟨row, found, isBody, parsed, _⟩ := carried
      refine ⟨row, found, fun id names => ?_⟩
      obtain ⟨task, parsed', _, target⟩ := inv.consistent.column _ _ _ found names
      rw [isBody, parsed] at parsed'
      cases parsed'
      rw [untargeted] at target
      cases target
    case h_2 =>
      rw [serialized] at prepared
      dsimp only at prepared
      split at prepared <;> cases prepared
      cases rejected
  case h_2 request prepared =>
    obtain ⟨target, payload', targeted, serialized', rfl⟩ := prepareReport_ok prepared
    cases serialized.symm.trans serialized'
    have sent : CallGood setting s.store
        (.sent (sign setting ⟨delivery.task.messageId, some target, payload⟩ timestamp nonce)) :=
      { carried := ⟨delivery.body, delivery.task, carried, targeted.symm⟩
        message := by
          obtain ⟨_, _, _, _, isMine⟩ := carried
          exact isMine
        targeted := Option.some_ne_none target
        presentable := presentable
        signed := verifyCallbackHmac_sign shared _ timestamp nonce }
    exact { (inv.setHandler slot (.awaiting delivery callback) carried).setCall number sent with }

theorem serveStep {operation : Operation} (allowed : dependable s (.serve number operation) = true)
    (step : serveStep s number operation = some t) : PipelineInv t := by
  have good := inv.calls number
  cases operation with rw [Pipeline.serveStep] at step
  | arrive now =>
    split at step <;> cases step
    case h_1 request isSent =>
      rw [isSent] at good
      have near : recent request now = true := by simpa [dependable, isSent] using allowed
      exact inv.handled number good (stageGood_start good near)
  | reserve fate =>
    split at step <;> cases step
    case h_1 request isReserving =>
      rw [isReserving] at good
      have unused : s.cache (nonceKey request) = none := by
        simpa [dependable, isReserving] using allowed
      have fresh : (s.cache.reserve (nonceKey request) (text "1") fate).2 ≠ some false := by
        cases fate <;> simp [Cache.reserve, unused]
      exact { inv.handled number good.1 (stageGood_afterReserve fresh) with }
  | read now fate =>
    split at step <;> cases step
    case h_1 request taskId isReading =>
      rw [isReading] at good
      exact inv.handled number good.1 (stageGood_afterRead good.1 inv.consistent now taskId _)
  | lookup now answered =>
    split at step <;> cases step
    case h_1 request isLooking =>
      rw [isLooking] at good
      obtain rfl : answered = true := allowed
      exact inv.handled number good.1 (stageGood_afterLookup good.1 inv.consistent now)
  | apply session now =>
    split at step <;> [skip; cases step]
    case h_1 request found isApplying =>
      rw [isApplying] at good
      obtain ⟨store, started, rfl⟩ := map_eq_some_iff.mp step
      have stored := inv.storeStep started
      have later : RequestGood setting store.db request := by
        have kept := stored.calls number
        rw [isApplying] at kept
        exact kept.1
      have isCall : (store.sessions session).call =
          some (.apply (resultCall request found now)) := sessionStep_start started
      have handled : CallGood setting store (.persisting request found session) :=
        ⟨later, resultCall request found now, isCall, good.1.message⟩
      exact { stored.setCall number handled with }
  | applied =>
    split at step <;> [skip; cases step]
    case h_1 request found session isPersisting =>
      rw [isPersisting] at good
      obtain ⟨requestGood, call, isCall, isMine⟩ := good
      split at step <;> cases step
      case h_1 call' answer faulted returned =>
        -- what the session has established when it returned still holds
        have post := inv.store.sessions session
        rw [returned] at post isCall
        cases isCall
        have concludes : Concludes s.store.db (.apply call) answer := post
        refine inv.handled number requestGood
          (stageGood_afterApply (fun conflict => ?_) fun missing => ?_)
        · obtain rfl := appliedOutcome_eq (by simp) conflict
          rw [← isMine]
          exact concludes
        · obtain rfl := appliedOutcome_eq (by simp) missing
          exact concludes
  | invalidate fates =>
    split at step <;> cases step
    case h_1 request found response isInvalidating =>
      rw [isInvalidating] at good
      have responded : StageGood setting s.store.db (.responded response) := good.2
      exact { inv.handled number good.1 responded with }
  | write now fate =>
    split at step <;> cases step
    case h_1 request found taskId resultJson response isWriting =>
      rw [isWriting] at good
      exact { inv.handled number good.1 (stageGood_afterWrite good.2 _) with }

theorem step (shared : setting.KeyShared)
    (named : setting.judge.messageId ≠ []) (short : setting.judge.messageId.length ≤ 256)
    {event : PipelineEvent setting} (allowed : dependable s event = true)
    (step : pipelineStep s event = some t) : PipelineInv t := by
  cases event with rw [pipelineStep] at step
  | store =>
    obtain ⟨store, stepped, rfl⟩ := map_eq_some_iff.mp step
    exact inv.storeStep stepped
  | evict =>
    cases step
    exact { inv with }
  | judge event =>
    split at step <;> [skip; cases step]
    case isTrue takes =>
      obtain ⟨judges, stepped, rfl⟩ := map_eq_some_iff.mp step
      exact inv.judgeStep named short takes allowed stepped
  | report => exact inv.reportStep shared step
  | serve => exact inv.serveStep allowed step
  | respond slot =>
    split at step <;> [skip; cases step]
    case h_1 number _ =>
      split at step <;> [skip; cases step]
      case h_1 request response isResponded =>
        have good := inv.calls number
        rw [isResponded] at good
        refine inv.answerStep (fun retryAfterMs same => good.2 ?_) step
        exact congrArg Prod.fst (Option.some.inj same)
  | hangUp => exact inv.answerStep (fun _ same => by cases same) step
  | finish slot =>
    split at step <;> cases step
    case h_1 disposition isSettled =>
      refine { inv.setHandler slot .idle trivial with dead := fun dead => ?_ }
      rw [Bool.or_eq_true] at dead
      rcases dead with before | isDead
      · exact inv.dead before
      have good := inv.handlers slot
      rw [isSettled] at good
      cases disposition with
      | deadLetter => exact good
      | ack | retry => cases isDead

end

theorem of_reachable (shared : setting.KeyShared) (named : setting.judge.messageId ≠ [])
    (short : setting.judge.messageId.length ≤ 256) {db : Tables}
    (conclusive : Conclusive setting.service.codec db)
    (reachable : (pipelineSystem setting db).ReachableUnder
      (fun s event => dependable s event = true) s) : PipelineInv s := by
  refine reachable.induct ?_ fun _ allowed stepped inv =>
    inv.step shared named short allowed stepped
  exact
    { store := ⟨conclusive, fun _ => trivial⟩
      inbox := ⟨InboxInv.initial, fun used => absurd rfl used, nofun⟩
      handlers := fun _ => trivial
      calls := fun _ => trivial
      dead := nofun }

end PipelineInv

/-- **A dead-lettered submission has its verdict**, in every run whose steps are dependable. -/
theorem dead_lettered_concluded (setting : PipelineSetting) (shared : setting.KeyShared)
    (named : setting.judge.messageId ≠ []) (short : setting.judge.messageId.length ≤ 256)
    (db : Tables) (conclusive : Conclusive setting.service.codec db) (s : PipelineState setting)
    (reachable : (pipelineSystem setting db).ReachableUnder
      (fun s event => dependable s event = true) s)
    (dead : s.deadLettered = true) (row : JudgeOutbox) (id : UInt64)
    (found : Tables.outbox s.store.db setting.judge.messageId = some row)
    (names : row.submissionId = some id) :
    ∃ submission, Tables.submission s.store.db id = some submission ∧
      submission.status ≠ .pending ∧ submission.status ≠ .queued ∧
      submission.status ≠ .judging := by
  have inv := PipelineInv.of_reachable shared named short conclusive reachable
  have conclusive' : Conclusive setting.service.codec s.store.db := inv.store.inv
  exact conclusive'.final (inv.dead dead) found names

/-! ## Two dead letters -/

def taskCodec : Codec where
  serializeTask task := if task = Delivery.sampleTask then some sampleBody else none
  parseTask := sampleSetting.parseTask
  messageToJson result := if result.status = .accepted then some [2] else none
  parse_serialize := by
    intro task payload _ serialized
    split at serialized
    case isTrue same =>
      cases serialized
      rw [same]
      rfl
    case isFalse => cases serialized

def verdictCodec : ResultCodec where
  serialize result :=
    if result = { status := .accepted } then some [8, 4]
    else if result = { status := .wrongAnswer } then some [8, 5]
    else none
  parse payload :=
    if payload = [8, 4] then some { status := .accepted }
    else if payload = [8, 5] then some { status := .wrongAnswer }
    else none
  serialize_parse := by
    intro result parsed payload _ parsing
    split at parsing
    case isTrue same =>
      cases parsing
      rw [same]
      rfl
    split at parsing
    case isTrue same =>
      cases parsing
      rw [same]
      rfl
    case isFalse => cases parsing

def samplePipeline : PipelineSetting where
  judge := { sampleSetting with codec := verdictCodec }
  service :=
    { codec := taskCodec
      parseResult := verdictCodec.parse
      hmac := fun _ _ => List.replicate 32 0
      configuredId := some [107]
      configuredSecret := some [115]
      json := countedJson }
  keyId := [107]
  secret := [115]
  parseTask := rfl
  parseResult := rfl

theorem keyShared_samplePipeline : samplePipeline.KeyShared where
  keyId := rfl
  secret := rfl
  present := by decide
  length _ _ := rfl

theorem conclusive_emptyTables (codec : Codec) : Conclusive codec emptyTables where
  consistent := consistent_emptyTables codec
  receipt _ present := by cases present
  status _ _ found := by cases found

def createEvents : List (PipelineEvent samplePipeline) :=
  [.store (.start 0 (.create
      { userId := 1
        questionId := [1]
        code := [1]
        language := [1]
        task := { Delivery.sampleTask with target := none }
        now := 0 })),
    .store (.proceed 0 { number := 5 }), .store (.proceed 0 {}), .store (.proceed 0 {})]

def judgeEvents (number : Nat) (owner : String) (result : JudgeResult) (nonce : UInt8) :
    List (PipelineEvent samplePipeline) :=
  [.judge (.receive 0 sampleBody 0 9), .judge (.claim 0 owner .answered),
    .judge (.judged 0 result), .judge (.complete 0 .answered),
    .report 0 number true 1000 (List.replicate 32 nonce)]

def arriveEvents (number : Nat) (answered : Bool) : List (PipelineEvent samplePipeline) :=
  [.serve number (.arrive 1010), .serve number (.reserve .answered),
    .serve number (.lookup 1010000000 answered)]

def settleEvents : List (PipelineEvent samplePipeline) := [.respond 0, .finish 0]

def rejudgedEvents : List (PipelineEvent samplePipeline) :=
  createEvents ++ judgeEvents 0 "a" { status := .accepted } 97 ++ arriveEvents 0 true ++
    [.serve 0 (.apply 1 0)] ++ List.replicate 6 (.store (.proceed 1 {})) ++
    [.serve 0 .applied, .serve 0 (.invalidate [])] ++ settleEvents ++
    [.judge (.advance 2000000), .judge .expire] ++
    judgeEvents 1 "b" { status := .wrongAnswer } 98 ++ arriveEvents 1 true ++
    [.serve 1 (.apply 2 0), .store (.proceed 2 {}), .store (.proceed 2 {}), .serve 1 .applied] ++
    settleEvents

theorem dead_lettered_concluded_rejudged :
    ∃ s : PipelineState samplePipeline, (pipelineSystem samplePipeline emptyTables).ReachableUnder
        (fun s event => dependable s event = true) s ∧ s.deadLettered = true ∧
      ∃ submission, Tables.submission s.store.db 5 = some submission ∧
        submission.status ≠ .pending ∧ submission.status ≠ .queued ∧
        submission.status ≠ .judging := by
  obtain ⟨s, reachable, check⟩ := (pipelineSystem samplePipeline emptyTables).exists_of_runUnder
    dependable rejudgedEvents
    (fun s => s.deadLettered &&
      (Tables.outbox s.store.db [7]).any (·.submissionId = some 5)) (by decide +kernel)
  rw [Bool.and_eq_true] at check
  obtain ⟨row, found, names⟩ := (any_eq_true _ _).mp check.2
  exact ⟨s, reachable, check.1, dead_lettered_concluded samplePipeline keyShared_samplePipeline
    (by decide) (by decide) emptyTables (conclusive_emptyTables _) s reachable check.1 row 5 found
    (by simpa using names)⟩

def unreadEvents : List (PipelineEvent samplePipeline) :=
  createEvents ++ judgeEvents 0 "a" { status := .accepted } 97 ++ arriveEvents 0 false ++
    settleEvents

/-- **A queued submission is dead-lettered.** -/
theorem dead_lettered_while_queued :
    ∃ s : PipelineState samplePipeline, (pipelineSystem samplePipeline emptyTables).Reachable s ∧
      s.deadLettered = true ∧
      ∃ submission, Tables.submission s.store.db 5 = some submission ∧
        submission.status = .queued := by
  obtain ⟨s, reachable, check⟩ := (pipelineSystem samplePipeline emptyTables).exists_of_run
    unreadEvents
    (fun s => s.deadLettered && (Tables.submission s.store.db 5).any (·.status = .queued))
    (by decide +kernel)
  rw [Bool.and_eq_true] at check
  obtain ⟨submission, found, queued⟩ := (any_eq_true _ _).mp check.2
  exact ⟨s, reachable, check.1, submission, found, by simpa using queued⟩

end OnlineJudge.Pipeline
