import OnlineJudge.Delivery.Receipts

/-!
# All reports of a message agree

Any number of judges handle deliveries of one message id.  A handler that is about to report holds
a result whose serialization is what the inbox stores for its fingerprint.
-/

namespace OnlineJudge.Delivery

open Inbox Function

/-! ## The system -/

structure SentRequest where
  request : UpdateJudgeResultRequest
  body : Bytes
  early : Bool

/-- One message id.  `sent`, `delivered` and `expired` only record what happened: the requests, the
bodies, and whether the key of a completed message has vanished. -/
structure DeliveryState where
  inbox : InboxState := {}
  handlers : Nat → Handler := fun _ => .idle
  receipt : Option JudgeResultReceipt := none
  calls : Nat → ApplyCall := fun _ => .idle
  sent : List SentRequest := []
  delivered : List Bytes := []
  expired : Bool := false

inductive Event
  | advance (microseconds : Nat)
  | expire
  | receive (slot : Nat) (body : Bytes) (retryCount : UInt32) (now : Int)
  | claim (slot : Nat) (owner : String) (fate : ScriptFate)
  | judged (slot : Nat) (result : JudgeResult)
  | complete (slot : Nat) (fate : ScriptFate)
  | report (slot : Nat) (stub nonce : Bool)
  | respond (slot : Nat) (response : Option (PersistenceOutcome × Nat))
  | raise (slot : Nat)
  | crash (slot : Nat)
  /-- A request arrives and passes the checks before `ApplyJudgeResult`. -/
  | serve (call index customExpiresAt : Nat)
  | find (call : Nat) (found encodes : Bool)
  | findFails (call : Nat)
  | insert (call : Nat) (fate : CommitFate)
  | recover (call : Nat) (readable : Bool)
  | cleanup (now : Nat)

namespace DeliveryState

def setHandler (s : DeliveryState) (slot : Nat) (handler : Handler) : DeliveryState :=
  { s with handlers := update s.handlers slot handler }

def setCall (s : DeliveryState) (call : Nat) (state : ApplyCall) : DeliveryState :=
  { s with calls := update s.calls call state }

end DeliveryState

def handlerStep (setting : Setting) (s : DeliveryState) : Event → Option DeliveryState
  | .receive slot body retryCount now =>
    -- messages with another id use another key
    if s.handlers slot = .idle ∧
        (setting.parseTask body).all (·.messageId = setting.messageId) then
      some { s.setHandler slot (receive setting body retryCount now) with
        delivered := body :: s.delivered }
    else none
  | .claim slot owner fate =>
    match s.handlers slot with
    | .claiming delivery =>
      let (inbox, result) := callClaim setting s.inbox delivery owner fate
      some { s.setHandler slot (afterClaim delivery owner result) with inbox := inbox }
    | _ => none
  | .judged slot result =>
    match s.handlers slot with
    | .judging delivery claimToken =>
      some (s.setHandler slot (.completing delivery claimToken result))
    | _ => none
  | .complete slot fate =>
    match s.handlers slot with
    | .completing delivery claimToken result =>
      let (inbox, answer) := callComplete setting s.inbox delivery claimToken result fate
      some { s.setHandler slot (afterComplete delivery result answer) with inbox := inbox }
    | _ => none
  | .report slot stub nonce =>
    match s.handlers slot with
    | .reporting delivery result callback =>
      match prepareReport setting stub nonce delivery.task result with
      | .error reported =>
        some (s.setHandler slot (.settled (finishDelivery reported delivery.retryCount)))
      | .ok request =>
        some { s.setHandler slot (.awaiting delivery callback) with
          sent := ⟨request, delivery.body, !s.expired⟩ :: s.sent }
    | _ => none
  | .respond slot response =>
    match s.handlers slot with
    | .awaiting delivery _ =>
      some (s.setHandler slot
        (.settled (finishDelivery (readResponse response) delivery.retryCount)))
    | _ => none
  | .raise slot => some (s.setHandler slot (afterException (s.handlers slot)))
  | .crash slot => some (s.setHandler slot .idle)
  | _ => none

def serviceStep (s : DeliveryState) : Event → Option DeliveryState
  | .serve call index customExpiresAt =>
    match s.calls call, s.sent[index]? with
    | .idle, some sent => some (s.setCall call (.finding sent.request customExpiresAt))
    | _, _ => none
  | .find call found encodes =>
    match s.calls call with
    | .finding request customExpiresAt =>
      some (s.setCall call (applyFind s.receipt found encodes request customExpiresAt))
    | _ => none
  | .findFails call =>
    match s.calls call with
    | .finding request _ => some (s.setCall call (.recovering request))
    | _ => none
  | .insert call fate =>
    match s.calls call with
    | .inserting request receipt =>
      let (row, state) := applyInsert s.receipt fate request receipt
      some { s.setCall call state with receipt := row }
    | _ => none
  | .recover call readable =>
    match s.calls call with
    | .recovering request => some (s.setCall call (applyRecover s.receipt readable request))
    | _ => none
  | .cleanup now => some { s with receipt := cleanupReceipt s.receipt now }
  | _ => none

def deliveryStep (setting : Setting) (s : DeliveryState) (event : Event) : Option DeliveryState :=
  match event with
  | .advance microseconds =>
    (inboxStep setting.completedTtlMs s.inbox (.advance microseconds)).map fun inbox =>
      { s with inbox := inbox }
  | .expire =>
    (inboxStep setting.completedTtlMs s.inbox .expire).map fun inbox =>
      { s with
        inbox := inbox
        expired := s.expired || decide (s.inbox.hash.state = some .completed) }
  | .serve .. | .find .. | .findFails .. | .insert .. | .recover .. | .cleanup .. =>
    serviceStep s event
  | _ => handlerStep setting s event

def deliverySystem (setting : Setting) : TransitionSystem DeliveryState Event where
  initial := {}
  step := deliveryStep setting

/-! ## What the judges do to the inbox -/

def Serialized (setting : Setting) (inbox : InboxState) : Prop :=
  ∀ fingerprint payload expiresAt, StoresResult inbox fingerprint payload expiresAt →
    ∃ result, setting.codec.serialize result = some payload

structure StoreInv (setting : Setting) (inbox : InboxState) : Prop where
  inv : InboxInv inbox
  serialized : Serialized setting inbox

inductive ScriptRun (setting : Setting) (inbox : InboxState) : InboxState → Prop
  | none : ScriptRun setting inbox inbox
  | advance (microseconds : Nat) :
      ScriptRun setting inbox { inbox with clock := inbox.clock + microseconds }
  | claim (fingerprint owner : String) (leaseMs : UInt32) :
      ScriptRun setting inbox (inbox.claim fingerprint owner leaseMs).2
  | complete (fingerprint owner : String) {result : JudgeResult} {payload : Bytes}
      (serialized : setting.codec.serialize result = some payload) :
      ScriptRun setting inbox (inbox.complete setting.completedTtlMs fingerprint owner payload).2

section Scripts

variable {setting : Setting} {inbox after : InboxState}

theorem callClaim_scriptRun (setting : Setting) (inbox : InboxState) (delivery : TaskDelivery)
    (owner : String) (fate : ScriptFate) :
    ScriptRun setting inbox (callClaim setting inbox delivery owner fate).1 := by
  rcases (callClaim_cases setting inbox delivery owner fate).1 with same | ran
  · rw [same]
    exact .none
  · rw [ran]
    exact .claim _ _ _

theorem callComplete_scriptRun (setting : Setting) (inbox : InboxState) (delivery : TaskDelivery)
    (claimToken : String) (result : JudgeResult) (fate : ScriptFate) :
    ScriptRun setting inbox (callComplete setting inbox delivery claimToken result fate).1 := by
  rcases callComplete_cases setting inbox delivery claimToken result fate with
    ⟨same, _⟩ | ⟨payload, serialized, ran, _⟩
  · rw [same]
    exact .none
  · rw [ran]
    exact .complete _ _ serialized

theorem ScriptRun.stores (ran : ScriptRun setting inbox after) {fingerprint : String}
    {payload : Bytes} {expiresAt : Nat}
    (stores : StoresResult inbox fingerprint payload expiresAt) :
    StoresResult after fingerprint payload expiresAt := by
  cases ran with
  | none | advance => exact stores
  | claim fingerprint' owner leaseMs => exact stores.claim fingerprint' owner leaseMs
  | complete fingerprint' owner => exact stores.complete setting.completedTtlMs fingerprint' owner _

theorem ScriptRun.storeInv (ran : ScriptRun setting inbox after) (store : StoreInv setting inbox) :
    StoreInv setting after := by
  cases ran with
  | none => exact store
  | advance microseconds =>
    have taken : inboxStep setting.completedTtlMs inbox (.advance microseconds) =
      some { inbox with clock := inbox.clock + microseconds } := rfl
    exact ⟨store.inv.step taken, store.serialized⟩
  | claim fingerprint owner leaseMs =>
    refine ⟨store.inv.claim fingerprint owner leaseMs, fun _ _ _ stores => ?_⟩
    exact store.serialized _ _ _ (store.inv.stores_of_claim stores)
  | @complete fingerprint owner result payload serialized =>
    refine ⟨store.inv.complete _ fingerprint owner payload, fun _ stored _ stores => ?_⟩
    rcases store.inv.stores_of_complete stores with before | rfl
    · exact store.serialized _ _ _ before
    · exact ⟨result, serialized⟩

variable {delivery : TaskDelivery} {owner : String} {fate : ScriptFate} {result : JudgeResult}
    {payload : Bytes} (store : StoreInv setting inbox)
    (serialized : setting.codec.serialize result = some payload)
include store serialized

theorem StoreInv.claimed
    (completed : (callClaim setting inbox delivery owner fate).2 = .completed result) :
    ∃ expiresAt, StoresResult inbox (delivery.fingerprint setting) payload expiresAt := by
  obtain ⟨stored, parsed, replied⟩ :=
    (callClaim_cases setting inbox delivery owner fate).2 result completed
  obtain ⟨expiresAt, stores⟩ := store.inv.stores_of_completed replied
  obtain ⟨original, same⟩ := store.serialized _ _ _ stores
  rw [setting.codec.serialize_parse same parsed] at serialized
  cases serialized
  exact ⟨expiresAt, stores⟩

theorem StoreInv.completed
    (completed : (callComplete setting inbox delivery owner result fate).2 = .completed) :
    ∃ expiresAt, StoresResult (callComplete setting inbox delivery owner result fate).1
      (delivery.fingerprint setting) payload expiresAt := by
  rcases callComplete_cases setting inbox delivery owner result fate with
    ⟨_, failed⟩ | ⟨stored, same, ran, replied⟩
  · exact absurd completed failed
  · rw [same] at serialized
    cases serialized
    rw [ran]
    exact store.inv.stores_completed (replied completed)

end Scripts

/-! ## The invariant of the judges -/

def Published (s : DeliveryState) (fingerprint : String) (payload : Bytes) : Prop :=
  s.expired = false → ∃ expiresAt, StoresResult s.inbox fingerprint payload expiresAt

def Known (setting : Setting) (s : DeliveryState) (delivery : TaskDelivery) : Prop :=
  delivery.body ∈ s.delivered ∧ setting.parseTask delivery.body = some delivery.task

def HandlerInv (setting : Setting) (s : DeliveryState) : Handler → Prop
  | .idle | .settled _ => True
  | .claiming delivery | .judging delivery _ | .completing delivery _ _ | .awaiting delivery _ =>
    Known setting s delivery
  | .reporting delivery result _ =>
    Known setting s delivery ∧ ∀ payload, setting.codec.serialize result = some payload →
      Published s (delivery.fingerprint setting) payload

structure SentInv (setting : Setting) (s : DeliveryState) (sent : SentRequest) : Prop where
  delivered : sent.body ∈ s.delivered
  target : ∃ task target, setting.parseTask sent.body = some task ∧
    task.target = some target ∧ sent.request.target = some target
  published : sent.early = true →
    Published s (payloadFingerprint setting.sha256 sent.body) sent.request.resultPayload

def Agree (setting : Setting) (first second : SentRequest) : Prop :=
  first.early = true → second.early = true →
    first.request.resultPayload = second.request.resultPayload ∧
    payloadFingerprint setting.sha256 first.body = payloadFingerprint setting.sha256 second.body

structure JudgeInv (setting : Setting) (s : DeliveryState) : Prop where
  store : StoreInv setting s.inbox
  handlers : ∀ slot, HandlerInv setting s (s.handlers slot)
  sent : ∀ sent ∈ s.sent, SentInv setting s sent
  agree : ∀ first ∈ s.sent, ∀ second ∈ s.sent, Agree setting first second

structure Extends (s t : DeliveryState) : Prop where
  delivered : ∀ body ∈ s.delivered, body ∈ t.delivered
  published : ∀ {fingerprint payload}, Published s fingerprint payload →
    Published t fingerprint payload

section Judges

variable {setting : Setting} {s t : DeliveryState}

theorem Extends.of_same (inbox : t.inbox = s.inbox) (expired : t.expired = s.expired)
    (delivered : ∀ body ∈ s.delivered, body ∈ t.delivered) : Extends s t :=
  ⟨delivered, fun published => by rw [Published, inbox, expired]; exact published⟩

theorem Extends.of_scriptRun (ran : ScriptRun setting s.inbox t.inbox)
    (expired : t.expired = s.expired) (delivered : t.delivered = s.delivered) : Extends s t := by
  refine ⟨fun body member => by rw [delivered]; exact member, fun published alive => ?_⟩
  obtain ⟨expiresAt, stores⟩ := published (by rw [← expired]; exact alive)
  exact ⟨expiresAt, ran.stores stores⟩

variable {delivery : TaskDelivery} {handler : Handler} {slot : Nat} {result : JudgeResult}
    {event : Event}

theorem Known.mono (ext : Extends s t) (known : Known setting s delivery) :
    Known setting t delivery :=
  ⟨ext.delivered _ known.1, known.2⟩

theorem HandlerInv.mono (ext : Extends s t) (inv : HandlerInv setting s handler) :
    HandlerInv setting t handler := by
  cases handler with
  | idle | settled => trivial
  | claiming | judging | completing | awaiting => exact Known.mono ext inv
  | reporting =>
    exact ⟨inv.1.mono ext, fun payload serialized => ext.published (inv.2 payload serialized)⟩

theorem SentInv.mono {sent : SentRequest} (ext : Extends s t) (inv : SentInv setting s sent) :
    SentInv setting t sent :=
  ⟨ext.delivered _ inv.delivered, inv.target, fun early => ext.published (inv.published early)⟩

theorem JudgeInv.update (inv : JudgeInv setting s) (ext : Extends s t)
    (store : StoreInv setting t.inbox) (sent : t.sent = s.sent)
    (handlers : t.handlers = update s.handlers slot handler)
    (ok : HandlerInv setting t handler) : JudgeInv setting t := by
  refine ⟨store, ?_, ?_, ?_⟩
  · rw [handlers]
    exact (forall_update_iff _ fun _ => HandlerInv setting t).mpr
      ⟨ok, fun other _ => (inv.handlers other).mono ext⟩
  · rw [sent]
    exact fun request member => (inv.sent request member).mono ext
  · rw [sent]
    exact inv.agree

theorem JudgeInv.extend (inv : JudgeInv setting s) (ext : Extends s t)
    (store : StoreInv setting t.inbox) (sent : t.sent = s.sent)
    (handlers : t.handlers = s.handlers) : JudgeInv setting t := by
  have same : t.handlers = Function.update s.handlers 0 (s.handlers 0) := by
    rw [handlers, Function.update_eq_self]
  exact inv.update ext store sent same ((inv.handlers 0).mono ext)

theorem JudgeInv.setHandler (inv : JudgeInv setting s) (slot : Nat)
    (ok : HandlerInv setting s handler) : JudgeInv setting (s.setHandler slot handler) := by
  have ext : Extends s (s.setHandler slot handler) := .of_same rfl rfl fun _ => id
  exact inv.update ext inv.store rfl rfl (ok.mono ext)

theorem JudgeInv.ran {inbox : InboxState} (inv : JudgeInv setting s)
    (ran : ScriptRun setting s.inbox inbox)
    (ok : HandlerInv setting { s with inbox := inbox } handler) :
    JudgeInv setting { s.setHandler slot handler with inbox := inbox } := by
  refine inv.update (.of_scriptRun ran rfl rfl) (ran.storeInv inv.store) rfl rfl (ok.mono ?_)
  exact .of_same rfl rfl fun _ => id

theorem handlerInv_receive {body : Bytes} (delivered : body ∈ s.delivered) (retryCount : UInt32)
    (now : Int) : HandlerInv setting s (receive setting body retryCount now) := by
  unfold receive
  split
  case h_1 => trivial
  case h_2 task parsed =>
    split
    · split
      · exact ⟨delivered, parsed⟩
      · trivial
    · exact ⟨delivered, parsed⟩

theorem handlerInv_afterClaim (known : Known setting s delivery) (claimToken : String)
    {claim : ClaimResult}
    (published : ∀ result, claim = .completed result →
      ∀ payload, setting.codec.serialize result = some payload →
        Published s (delivery.fingerprint setting) payload) :
    HandlerInv setting s (afterClaim delivery claimToken claim) := by
  cases claim with
  | started =>
    simp only [afterClaim]
    split <;> exact known
  | completed result => exact ⟨known, published result rfl⟩
  | _ => trivial

theorem handlerInv_afterComplete (known : Known setting s delivery) {answer : CompleteResult}
    (published : answer = .completed → ∀ payload, setting.codec.serialize result = some payload →
      Published s (delivery.fingerprint setting) payload) :
    HandlerInv setting s (afterComplete delivery result answer) := by
  cases answer with
  | completed => exact ⟨known, published rfl⟩
  | conflict =>
    simp only [afterComplete]
    split <;> trivial
  | notOwner | error => trivial

theorem handlerInv_afterException (handler : Handler) :
    HandlerInv setting s (afterException handler) := by
  cases handler with
  | idle | settled | claiming | judging => trivial
  | completing delivery | reporting delivery | awaiting delivery =>
    simp only [afterException]
    split <;> trivial

section

variable (inv : JudgeInv setting s)
include inv

theorem JudgeInv.send {callback : Bool}
    (reporting : s.handlers slot = .reporting delivery result callback) {stub nonce : Bool}
    {request : UpdateJudgeResultRequest}
    (prepared : prepareReport setting stub nonce delivery.task result = .ok request) :
    JudgeInv setting
      { s.setHandler slot (.awaiting delivery callback) with
        sent := ⟨request, delivery.body, !s.expired⟩ :: s.sent } := by
  have handler := inv.handlers slot
  rw [reporting] at handler
  obtain ⟨known, published⟩ := handler
  obtain ⟨target, payload, targeted, serialized, rfl⟩ := prepareReport_ok prepared
  have fresh := published payload serialized
  have old : JudgeInv setting (s.setHandler slot (.awaiting delivery callback)) :=
    inv.setHandler slot known
  refine ⟨old.store, old.handlers, ?_, ?_⟩
  · intro sent member
    rcases List.mem_cons.mp member with rfl | earlier
    · exact ⟨known.1, ⟨delivery.task, target, known.2, targeted, rfl⟩, fun _ => fresh⟩
    · exact ⟨(old.sent sent earlier).delivered, (old.sent sent earlier).target,
        (old.sent sent earlier).published⟩
  · have meets : ∀ second ∈ s.sent, Agree setting
        ⟨⟨delivery.task.messageId, some target, payload⟩, delivery.body, !s.expired⟩ second := by
      intro second member alive early
      have alive : s.expired = false := by simpa using alive
      obtain ⟨_, stores⟩ := fresh alive
      obtain ⟨_, stores'⟩ := (inv.sent second member).published early alive
      obtain ⟨sameFingerprint, samePayload⟩ := stores.unique stores'
      exact ⟨samePayload, sameFingerprint⟩
    intro first member second member'
    rcases List.mem_cons.mp member with rfl | earlier <;>
      rcases List.mem_cons.mp member' with rfl | earlier'
    · exact fun _ _ => ⟨rfl, rfl⟩
    · exact meets second earlier'
    · intro early alive
      obtain ⟨samePayload, sameFingerprint⟩ := meets first earlier alive early
      exact ⟨samePayload.symm, sameFingerprint.symm⟩
    · exact inv.agree first earlier second earlier'

theorem JudgeInv.claim (claiming : s.handlers slot = .claiming delivery) (owner : String)
    (fate : ScriptFate) :
    JudgeInv setting
      { s.setHandler slot
          (afterClaim delivery owner (callClaim setting s.inbox delivery owner fate).2) with
        inbox := (callClaim setting s.inbox delivery owner fate).1 } := by
  have known := inv.handlers slot
  rw [claiming] at known
  have ran := callClaim_scriptRun setting s.inbox delivery owner fate
  refine inv.ran ran (handlerInv_afterClaim ?_ owner ?_)
  · exact known
  intro result completed payload serialized _
  obtain ⟨expiresAt, stores⟩ := inv.store.claimed serialized completed
  exact ⟨expiresAt, ran.stores stores⟩

theorem JudgeInv.complete {claimToken : String}
    (completing : s.handlers slot = .completing delivery claimToken result) (fate : ScriptFate) :
    JudgeInv setting
      { s.setHandler slot
          (afterComplete delivery result
            (callComplete setting s.inbox delivery claimToken result fate).2) with
        inbox := (callComplete setting s.inbox delivery claimToken result fate).1 } := by
  have known := inv.handlers slot
  rw [completing] at known
  have ran := callComplete_scriptRun setting s.inbox delivery claimToken result fate
  refine inv.ran ran (handlerInv_afterComplete ?_ ?_)
  · exact known
  · exact fun completed payload serialized _ => inv.store.completed serialized completed

theorem JudgeInv.handlerStep (taken : handlerStep setting s event = some t) :
    JudgeInv setting t := by
  unfold Delivery.handlerStep at taken
  split at taken
  case h_1 slot body retryCount now =>
    obtain ⟨-, taken⟩ := Option.ite_none_right_eq_some.mp taken
    cases taken
    have ext : Extends s { s.setHandler slot (receive setting body retryCount now) with
        delivered := body :: s.delivered } :=
      .of_same rfl rfl fun _ => List.mem_cons_of_mem body
    exact inv.update ext inv.store rfl rfl (handlerInv_receive List.mem_cons_self retryCount now)
  case h_2 slot owner fate =>
    split at taken
    case h_2 => cases taken
    case h_1 delivery claiming =>
      cases taken
      exact inv.claim claiming owner fate
  case h_3 slot result =>
    have known := inv.handlers slot
    split at taken
    case h_2 => cases taken
    case h_1 delivery claimToken judging =>
      cases taken
      rw [judging] at known
      exact inv.setHandler slot known
  case h_4 slot fate =>
    split at taken
    case h_2 => cases taken
    case h_1 delivery claimToken result completing =>
      cases taken
      exact inv.complete completing fate
  case h_5 slot stub nonce =>
    split at taken
    case h_2 => cases taken
    case h_1 delivery result reporting =>
      split at taken
      case h_1 reported prepared =>
        cases taken
        exact inv.setHandler slot trivial
      case h_2 request prepared =>
        cases taken
        exact inv.send reporting prepared
  case h_6 slot response =>
    split at taken
    case h_2 => cases taken
    case h_1 delivery awaiting =>
      cases taken
      exact inv.setHandler slot trivial
  case h_7 slot =>
    cases taken
    exact inv.setHandler slot (handlerInv_afterException (s.handlers slot))
  case h_8 slot =>
    cases taken
    exact inv.setHandler slot trivial
  case h_9 => cases taken

theorem JudgeInv.expire {inbox : InboxState}
    (taken : inboxStep setting.completedTtlMs s.inbox .expire = some inbox) :
    JudgeInv setting
      { s with
        inbox := inbox
        expired := s.expired || decide (s.inbox.hash.state = some .completed) } := by
  have gone : inbox.hash = {} := by
    simp only [inboxStep] at taken
    split at taken
    case h_2 => cases taken
    case h_1 =>
      split at taken
      case isFalse => cases taken
      case isTrue => cases taken; rfl
  have store : StoreInv setting inbox := by
    refine ⟨inv.store.inv.step taken, fun fingerprint payload expiresAt stores => ?_⟩
    rw [StoresResult, gone] at stores
    cases stores
  refine inv.extend ⟨fun _ => id, fun published alive => ?_⟩ store rfl rfl
  simp only [Bool.or_eq_false_iff, decide_eq_false_iff_not] at alive
  obtain ⟨expiresAt, stores⟩ := published alive.1
  exact absurd (by rw [stores]; rfl) alive.2

end

theorem serviceStep_frame (taken : serviceStep s event = some t) :
    t = { s with receipt := t.receipt, calls := t.calls } := by
  unfold serviceStep at taken
  split at taken
  case h_1 | h_2 | h_3 | h_4 | h_5 =>
    split at taken
    case h_1 => cases taken; rfl
    case h_2 => cases taken
  case h_6 => cases taken; rfl
  case h_7 => cases taken

theorem JudgeInv.step (inv : JudgeInv setting s) (taken : deliveryStep setting s event = some t) :
    JudgeInv setting t := by
  unfold deliveryStep at taken
  split at taken
  case h_1 microseconds =>
    cases taken
    have ran : ScriptRun setting s.inbox _ := .advance microseconds
    exact inv.extend (.of_scriptRun ran rfl rfl) (ran.storeInv inv.store) rfl rfl
  case h_2 =>
    obtain ⟨inbox, expired, rfl⟩ := Option.map_eq_some_iff.mp taken
    exact inv.expire expired
  case h_9 => exact inv.handlerStep taken
  all_goals
    rw [serviceStep_frame taken]
    exact inv.extend (.of_same rfl rfl fun _ => id) inv.store rfl rfl

end Judges

/-! ## The invariant of the business service -/

def CollisionFree (setting : Setting) (bodies : List Bytes) : Prop :=
  ∀ first ∈ bodies, ∀ second ∈ bodies, setting.sha256 first = setting.sha256 second → first = second

def AllEarly (s : DeliveryState) : Prop := ∀ sent ∈ s.sent, sent.early = true

def WasSent (s : DeliveryState) (request : UpdateJudgeResultRequest) : Prop :=
  ∃ sent ∈ s.sent, sent.request = request

def ReceiptOfSent (s : DeliveryState) (receipt : JudgeResultReceipt) : Prop :=
  ∃ sent ∈ s.sent, ∃ target customExpiresAt, sent.request.target = some target ∧
    receipt = newReceipt sent.request customExpiresAt target

def CallInv (setting : Setting) (s : DeliveryState) : ApplyCall → Prop
  | .idle => True
  | .finding request _ | .recovering request => WasSent s request
  | .inserting request receipt => WasSent s request ∧ ReceiptOfSent s receipt
  | .returned outcome => outcome = .conflict → ¬ (CollisionFree setting s.delivered ∧ AllEarly s)

structure ServiceInv (setting : Setting) (s : DeliveryState) : Prop where
  receipt : ∀ receipt, s.receipt = some receipt → ReceiptOfSent s receipt
  calls : ∀ call, CallInv setting s (s.calls call)

section Service

variable {setting : Setting} {s t : DeliveryState} {receipt : JudgeResultReceipt}
    {request : UpdateJudgeResultRequest} {event : Event}

section

variable (sent : ∀ request ∈ s.sent, request ∈ t.sent)
include sent

theorem ReceiptOfSent.mono (known : ReceiptOfSent s receipt) : ReceiptOfSent t receipt := by
  obtain ⟨request, member, made⟩ := known
  exact ⟨request, sent request member, made⟩

theorem WasSent.mono (known : WasSent s request) : WasSent t request := by
  obtain ⟨request, member, made⟩ := known
  exact ⟨request, sent request member, made⟩

theorem CallInv.mono {call : ApplyCall} (delivered : ∀ body ∈ s.delivered, body ∈ t.delivered)
    (inv : CallInv setting s call) :
    CallInv setting t call := by
  cases call with
  | idle => trivial
  | finding | recovering => exact WasSent.mono sent inv
  | inserting => exact ⟨inv.1.mono sent, inv.2.mono sent⟩
  | returned =>
    rintro conflict ⟨collisionFree, allEarly⟩
    refine inv conflict ⟨?_, fun request member => allEarly request (sent request member)⟩
    exact fun first member second member' =>
      collisionFree first (delivered first member) second (delivered second member')

end

theorem JudgeInv.no_conflict (inv : JudgeInv setting s) (made : ReceiptOfSent s receipt)
    (sent : WasSent s request) (collisionFree : CollisionFree setting s.delivered)
    (allEarly : AllEarly s) : compareReceipt receipt request = .idempotent := by
  obtain ⟨first, member, target, customExpiresAt, targeted, rfl⟩ := made
  obtain ⟨second, member', rfl⟩ := sent
  obtain ⟨samePayload, sameFingerprint⟩ :=
    inv.agree first member second member' (allEarly first member) (allEarly second member')
  have knownFirst := inv.sent first member
  have knownSecond := inv.sent second member'
  have sameBody : first.body = second.body :=
    collisionFree _ knownFirst.delivered _ knownSecond.delivered
      (sha256_eq_of_payloadFingerprint_eq sameFingerprint)
  -- one body is one task, and both requests carry its target
  obtain ⟨task, target', parsed, ofTask, ofFirst⟩ := knownFirst.target
  obtain ⟨task', target'', parsed', ofTask', ofSecond⟩ := knownSecond.target
  rw [sameBody, parsed'] at parsed
  cases parsed
  rw [ofTask'] at ofTask
  cases ofTask
  rw [ofFirst] at targeted
  cases targeted
  rw [compareReceipt, receiptMatches_newReceipt customExpiresAt ofSecond samePayload]
  rfl

theorem JudgeInv.callInv_compare (inv : JudgeInv setting s) (made : ReceiptOfSent s receipt)
    (sent : WasSent s request) :
    CallInv setting s (.returned (compareReceipt receipt request)) := by
  rintro conflict ⟨collisionFree, allEarly⟩
  rw [inv.no_conflict made sent collisionFree allEarly] at conflict
  cases conflict

section

variable (judges : JudgeInv setting s) (service : ServiceInv setting s)
include judges service

theorem callInv_applyFind (sent : WasSent s request) (found encodes : Bool)
    (customExpiresAt : Nat) :
    CallInv setting s (applyFind s.receipt found encodes request customExpiresAt) := by
  unfold applyFind
  split
  case h_1 receipt present => exact judges.callInv_compare (service.receipt receipt present) sent
  case h_2 =>
    obtain ⟨origin, member, rfl⟩ := sent
    have inserting : ∀ target, origin.request.target = some target → CallInv setting s
        (.inserting origin.request (newReceipt origin.request customExpiresAt target)) :=
      fun target targeted => ⟨⟨origin, member, rfl⟩, origin, member, target, customExpiresAt,
        targeted, rfl⟩
    split
    case h_1 id targeted =>
      split
      · exact nofun
      split
      · exact nofun
      · exact inserting (.submission id) targeted
    case h_2 id targeted => exact inserting (.custom id) targeted
    case h_3 untargeted =>
      obtain ⟨_, target, _, _, targeted⟩ := (judges.sent origin member).target
      rw [untargeted] at targeted
      cases targeted

theorem callInv_applyRecover (sent : WasSent s request) (readable : Bool) :
    CallInv setting s (applyRecover s.receipt readable request) := by
  unfold applyRecover
  split
  case h_1 receipt present => exact judges.callInv_compare (service.receipt receipt present) sent
  case h_2 => exact nofun

end

theorem ServiceInv.setCall (service : ServiceInv setting s) (call : Nat) {state : ApplyCall}
    (ok : CallInv setting s state) : ServiceInv setting (s.setCall call state) := by
  refine ⟨service.receipt, ?_⟩
  exact (forall_update_iff _ fun _ => CallInv setting s).mpr
    ⟨ok, fun other _ => service.calls other⟩

theorem ServiceInv.setReceipt (service : ServiceInv setting s) {row : Option JudgeResultReceipt}
    (made : ∀ receipt, row = some receipt → ReceiptOfSent s receipt) :
    ServiceInv setting { s with receipt := row } :=
  ⟨made, service.calls⟩

theorem ServiceInv.insert (service : ServiceInv setting s) {call : Nat}
    (inserting : s.calls call = .inserting request receipt) (fate : CommitFate) :
    ServiceInv setting
      { s.setCall call (applyInsert s.receipt fate request receipt).2 with
        receipt := (applyInsert s.receipt fate request receipt).1 } := by
  have own := service.calls call
  rw [inserting] at own
  obtain ⟨sent, made⟩ := own
  have inserted : ∀ stored, some receipt = some stored → ReceiptOfSent s stored := by
    rintro stored ⟨⟩
    exact made
  have persisted : CallInv setting s (.returned .persisted) := nofun
  have recovering : CallInv setting s (.recovering request) := sent
  unfold applyInsert
  split
  · exact (service.setCall call persisted).setReceipt inserted
  · exact (service.setCall call recovering).setReceipt inserted
  · exact service.setCall call recovering

theorem ServiceInv.serviceStep (judges : JudgeInv setting s) (service : ServiceInv setting s)
    (taken : serviceStep s event = some t) :
    ServiceInv setting t := by
  unfold Delivery.serviceStep at taken
  split at taken
  case h_1 call index customExpiresAt =>
    split at taken
    case h_2 => cases taken
    case h_1 sent _ present =>
      cases taken
      exact service.setCall call ⟨sent, List.mem_of_getElem? present, rfl⟩
  case h_2 call found encodes =>
    have own := service.calls call
    split at taken
    case h_2 => cases taken
    case h_1 request customExpiresAt finding =>
      cases taken
      rw [finding] at own
      exact service.setCall call
        (callInv_applyFind judges service own found encodes customExpiresAt)
  case h_3 call =>
    have own := service.calls call
    split at taken
    case h_2 => cases taken
    case h_1 request customExpiresAt finding =>
      cases taken
      rw [finding] at own
      exact service.setCall call own
  case h_4 call fate =>
    split at taken
    case h_2 => cases taken
    case h_1 request receipt inserting =>
      cases taken
      exact service.insert inserting fate
  case h_5 call readable =>
    have own := service.calls call
    split at taken
    case h_2 => cases taken
    case h_1 request recovering =>
      cases taken
      rw [recovering] at own
      exact service.setCall call (callInv_applyRecover judges service own readable)
  case h_6 now =>
    cases taken
    refine service.setReceipt fun receipt kept => service.receipt receipt ?_
    exact (Option.filter_eq_some_iff.mp kept).1
  case h_7 => cases taken

theorem handlerStep_frame (taken : handlerStep setting s event = some t) :
    t.receipt = s.receipt ∧ t.calls = s.calls ∧ (∀ sent ∈ s.sent, sent ∈ t.sent) ∧
      ∀ body ∈ s.delivered, body ∈ t.delivered := by
  unfold handlerStep at taken
  split at taken
  case h_1 slot body retryCount now =>
    obtain ⟨-, taken⟩ := Option.ite_none_right_eq_some.mp taken
    cases taken
    exact ⟨rfl, rfl, fun _ => id, fun _ => List.mem_cons_of_mem body⟩
  case h_5 =>
    split at taken
    case h_2 => cases taken
    case h_1 =>
      split at taken
      case h_1 =>
        cases taken
        exact ⟨rfl, rfl, fun _ => id, fun _ => id⟩
      case h_2 =>
        cases taken
        exact ⟨rfl, rfl, fun _ => List.mem_cons_of_mem _, fun _ => id⟩
  case h_2 | h_3 | h_4 | h_6 =>
    split at taken
    case h_1 =>
      cases taken
      exact ⟨rfl, rfl, fun _ => id, fun _ => id⟩
    case h_2 => cases taken
  case h_7 | h_8 =>
    cases taken
    exact ⟨rfl, rfl, fun _ => id, fun _ => id⟩
  case h_9 => cases taken

theorem ServiceInv.extend (service : ServiceInv setting s) (receipt : t.receipt = s.receipt)
    (calls : t.calls = s.calls) (sent : ∀ request ∈ s.sent, request ∈ t.sent)
    (delivered : ∀ body ∈ s.delivered, body ∈ t.delivered) : ServiceInv setting t := by
  refine ⟨fun stored present => ?_, fun call => ?_⟩
  · exact (service.receipt stored (receipt ▸ present)).mono sent
  · rw [calls]
    exact (service.calls call).mono sent delivered

theorem ServiceInv.step (judges : JudgeInv setting s) (service : ServiceInv setting s)
    (taken : deliveryStep setting s event = some t) :
    ServiceInv setting t := by
  unfold deliveryStep at taken
  split at taken
  case h_1 | h_2 =>
    obtain ⟨inbox, _, rfl⟩ := Option.map_eq_some_iff.mp taken
    exact service.extend rfl rfl (fun _ => id) fun _ => id
  case h_9 =>
    obtain ⟨receipt, calls, sent, delivered⟩ := handlerStep_frame taken
    exact service.extend receipt calls sent delivered
  all_goals exact service.serviceStep judges taken

theorem invariants_of_reachable (reachable : (deliverySystem setting).Reachable s) :
    JudgeInv setting s ∧ ServiceInv setting s := by
  refine TransitionSystem.Reachable.induct
    (P := fun s => JudgeInv setting s ∧ ServiceInv setting s) reachable ?_ ?_
  · refine ⟨⟨⟨InboxInv.initial, ?_⟩, fun _ => trivial, nofun, nofun⟩, nofun, fun _ => trivial⟩
    intro fingerprint payload expiresAt stores
    cases stores
  · rintro t u event _ taken ⟨judges, service⟩
    exact ⟨judges.step taken, service.step judges taken⟩

end Service

/-! ## The theorem -/

def sampleTask : JudgeTaskMessage where
  messageId := [7]
  target := some (.submission 5)
  userId := 1
  questionId := [1]
  code := [1]
  language := [1]
  timeLimitMs := 1000
  memoryLimitMb := 64
  testCases := [{}]
  createdAt := 1

def sampleBody : Bytes :=
  [10, 1, 7, 24, 5, 40, 1, 50, 1, 1, 58, 1, 1, 66, 1, 1, 72, 232, 7, 80, 64, 98, 0, 104, 1]

/-- The setting of `sampleTask` and of an accepted result; nothing else is ever encoded. -/
def sampleSetting : Setting where
  parseTask body := if body = sampleBody then some sampleTask else none
  codec :=
    { serialize := fun result => if result = { status := .accepted } then some [8, 4] else none
      parse := fun payload => if payload = [8, 4] then some { status := .accepted } else none
      serialize_parse := by
        intro result parsed payload serialized parsing
        split at parsing <;> simp_all }
  sha256 body index :=
    if body = sampleBody then
      [91, 202, 103, 182, 57, 247, 48, 93, 64, 173, 182, 168, 2, 134, 130, 86, 178, 54, 244, 83,
        188, 147, 21, 166, 190, 72, 152, 21, 241, 145, 226, 76].get index
    else 0
  completedTtlMs := 1000
  messageId := [7]

end OnlineJudge.Delivery
