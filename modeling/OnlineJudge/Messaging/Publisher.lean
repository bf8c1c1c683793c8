import OnlineJudge.Library.Alone
import OnlineJudge.Messaging.Producer
import OnlineJudge.Store.Consistency

/-!
# `OutboxPublisher`

The worker of `OutboxPublisher` (`outbox_publisher.cpp`) claims outbox rows, publishes them through
`MQProducer` and marks them by completions that name the message and not the publish
(`published_without_route`).
-/

namespace OnlineJudge.Messaging

open Store RepeatableRead List

/-! ## The publisher -/

structure Config where
  batchSize : Nat := 32
  maxRetryDelaySeconds : UInt32 := 60
  leaseSeconds : UInt32 := 30
  confirmTimeoutSeconds : UInt32 := 5

/-- `struct InFlight`; the deadline is in milliseconds of the steady clock. -/
structure InFlight where
  attemptCount : Nat
  deadline : Nat
  deriving DecidableEq

/-- Where the worker is in `Run`. -/
inductive Worker
  /-- Before `DrainCompletions`, at the head of the loop or behind it. -/
  | looping
  /-- In the loop of `DrainCompletions`; `last` behind the loop of `Run`. -/
  | draining (ready : List Completion) (last : Bool)
  /-- In the loop of `ExpireConfirms`. -/
  | expiring (now : Nat) (rest : List (Bytes × InFlight))
  | claiming
  | publishing (rows : List (Bytes × JudgeOutbox))
  | waiting
  | stopped
  deriving DecidableEq

structure Publisher where
  producer : MQProducer := {}
  db : Tables
  /-- `completions_->queue`. -/
  queue : List Completion := []
  accepting : Bool := true
  running : Bool := false
  inFlight : List (Bytes × InFlight) := []
  worker : Worker := .stopped

def retryDelay (config : Config) (attemptCount : Nat) : UInt32 :=
  min config.maxRetryDelaySeconds ((1 : UInt32) <<< UInt32.ofNat (min attemptCount 10))

inductive Action
  | start
  | stop
  /-- The next step of the worker, with the clocks it reads and the fates of its
  statements. -/
  | work (now : Nat) (time : DateTime) (fates : List (Fate Key))
  | event (event : MQProducer.Event)
  | store (call : Call) (fates : List (Fate Key))

section Steps

variable (codec : Codec) (config : Config) (owner : String)

def callStore (db : Tables) (call : Call) (fates : List (Fate Key)) : Answer × Tables :=
  ((workload codec).procedure call).alone db fates

variable (s : Publisher)

/-- `MarkPublished` and `MarkFailed`. -/
def mark (messageId : Bytes) (published : Bool) (retryDelaySeconds : UInt32) (time : DateTime)
    (fates : List (Fate Key)) : Publisher :=
  { s with
    db := (callStore codec s.db
      (.settle ⟨messageId, owner, published, retryDelaySeconds, time⟩) fates).2 }

def erase (messageId : Bytes) : Publisher :=
  { s with inFlight := s.inFlight.filter (·.1 ≠ messageId) }

/-- One completion in `DrainCompletions`. -/
def drain (completion : Completion) (now : Nat) (time : DateTime)
    (fates : List (Fate Key)) : Publisher :=
  match s.inFlight.lookup completion.messageId with
  | none => s
  | some entry =>
    if completion.success = true ∧ now < entry.deadline then
      mark codec owner (erase s completion.messageId) completion.messageId true 0 time fates
    else
      mark codec owner (erase s completion.messageId) completion.messageId false
        (retryDelay config entry.attemptCount) time fates

def publishRow (messageId : Bytes) (row : JudgeOutbox) (now : Nat) (time : DateTime)
    (fates : List (Fate Key)) : Publisher :=
  if (s.inFlight.lookup messageId).isSome then s
  else
    match s.producer.publishConfirmed messageId row.payload with
    | some producer =>
      { s with
        producer := producer
        inFlight := s.inFlight ++ [(messageId,
          ⟨row.attemptCount, now + 1000 * config.confirmTimeoutSeconds.toNat⟩)] }
    | none => mark codec owner s messageId false (retryDelay config row.attemptCount) time fates

def claimCall (time : DateTime) : ClaimCall where
  limit := if config.batchSize = 0 then 1 else config.batchSize
  owner := owner
  leaseSeconds := config.leaseSeconds
  confirmTimeoutSeconds := config.confirmTimeoutSeconds
  now := time
  completedAt _ := time

def work (now : Nat) (time : DateTime) (fates : List (Fate Key)) : Option Publisher :=
  match s.worker with
  | .looping => some { s with queue := [], worker := .draining s.queue (!s.running) }
  | .draining (completion :: ready) last =>
    some { drain codec config owner s completion now time fates with
      worker := .draining ready last }
  | .draining [] last =>
    some { s with worker := if last then .stopped else .expiring now s.inFlight }
  | .expiring start ((messageId, entry) :: rest) =>
    if start < entry.deadline then some { s with worker := .expiring start rest }
    else
      some { mark codec owner (erase s messageId) messageId false
          (retryDelay config entry.attemptCount) time fates with
        worker := .expiring start rest }
  | .expiring _ [] => some { s with worker := .claiming }
  | .claiming =>
    match callStore codec s.db (.claim (claimCall config owner time)) fates with
    | (.claimed (some rows), db) => some { s with db := db, worker := .publishing rows }
    | (_, db) => some { s with db := db, worker := .waiting }
  | .publishing ((messageId, row) :: rows) =>
    if s.running then
      some { publishRow codec config owner s messageId row now time fates with
        worker := .publishing rows }
    else some { s with worker := .waiting }
  | .publishing [] => some { s with worker := .waiting }
  | .waiting => some { s with worker := .looping }
  | .stopped => none

/-- The callback that `Run` gives to the producer. -/
def complete : Option Completion → Publisher
  | none => s
  | some completion => if s.accepting then { s with queue := s.queue ++ [completion] } else s

def isForeign : Call → Bool
  | .claim _ | .settle _ => false
  | _ => true

/-- All threads.  `Stop` returns when the worker has stopped. -/
def publisherStep : Action → Option Publisher
  | .start =>
    if s.running = false ∧ s.worker = .stopped then
      some { s with running := true, accepting := true, worker := .looping }
    else none
  | .stop => some { s with running := false, accepting := s.worker ≠ .stopped && s.accepting }
  | .work now time fates => work codec config owner s now time fates
  | .event event =>
    (s.producer.step event).map fun (producer, completion) =>
      complete { s with producer := producer } completion
  | .store call fates =>
    if isForeign call then some { s with db := (callStore codec s.db call fates).2 } else none

def publisherSystem (initial : Tables) : TransitionSystem Publisher Action where
  initial := { db := initial }
  step := publisherStep codec config owner

end Steps

/-! ## Published rows -/

def Unpublished (messageId : Bytes) (db : Tables) : Prop :=
  ∀ row, db.outbox messageId = some row → row.status ≠ .published

section

variable {codec : Codec} {config : Config} {owner : String} {messageId : Bytes}

theorem Unpublished.setOutbox {db : Tables} (unpublished : Unpublished messageId db) (id : Bytes)
    {row : JudgeOutbox} (status : messageId = id → row.status ≠ .published) :
    Unpublished messageId (db.setOutbox id row) := by
  intro row' found
  rw [Tables.outbox_setOutbox] at found
  split at found
  case isTrue same => exact Option.some.inj found ▸ status same
  case isFalse => exact unpublished row' found

theorem Unpublished.committed {base after : Tables} {call : Call}
    (unpublished : Unpublished messageId base) (committed : Committed codec base base after call)
    (other : ∀ settle, call = .settle settle → settle.messageId = messageId →
      settle.published = false) : Unpublished messageId after := by
  cases call with
  | create =>
    obtain ⟨id, payload, _, _, _, rfl⟩ := committed
    refine Unpublished.setOutbox (fun row found => ?_) _ fun _ => nofun
    rw [Tables.outbox_setSubmission] at found
    exact unpublished row found
  | createCustom =>
    obtain ⟨id, payload, _, _, _, rfl⟩ := committed
    exact unpublished.setOutbox _ fun _ => nofun
  | claim =>
    intro row found
    rcases Claims.outbox committed messageId with same | ⟨row', _, _, ⟨_, claimed⟩ | ⟨_, dead, _⟩⟩
    · rw [same] at found
      exact unpublished row found
    · cases claimed.symm.trans found
      exact nofun
    · cases dead.symm.trans found
      exact nofun
  | settle call =>
    obtain ⟨row, _, _, _, rfl⟩ := committed
    refine unpublished.setOutbox _ fun same => ?_
    rw [other call rfl same.symm]
    exact nofun
  | apply =>
    intro row found
    refine unpublished row ?_
    rcases committed with ⟨_, _, _, _, _, _, _, _, _, _, _, rfl⟩ | ⟨_, _, _, rfl⟩ | rfl
    · simpa using found
    · simpa using found
    · exact found

theorem Unpublished.callStore {db : Tables} (unpublished : Unpublished messageId db) (call : Call)
    (other : ∀ settle, call = .settle settle → settle.messageId = messageId →
      settle.published = false) (fates : List (Fate Key)) :
    Unpublished messageId (callStore codec db call fates).2 := by
  refine Procedure.alone_keeps (fun base unpublished => ?_) unpublished fates
  refine (wlp_procedure codec (· = base) rfl call).imp fun body holds => ?_
  refine wlp_mono (fun _ past => past) ⟨?_, fun _ => trivial, fun _ => trivial⟩ holds
  rintro progress answer ⟨snapshot, rfl, _, committed⟩
  exact ⟨unpublished.committed committed other, trivial⟩

/-! ## The invariant -/

def Worker.ready : Worker → List Completion
  | .draining ready _ => ready
  | _ => []

def Truthful (messageId : Bytes) (producer : MQProducer) (completions : List Completion) : Prop :=
  ∀ completion ∈ completions, completion.messageId = messageId → completion.success = true →
    producer.Routed messageId

structure PublisherInv (messageId : Bytes) (s : Publisher) : Prop where
  producer : s.producer.ProducerInv messageId
  published : s.producer.Routed messageId ∨ Unpublished messageId s.db
  queue : Truthful messageId s.producer s.queue
  ready : Truthful messageId s.producer s.worker.ready

section

variable {s : Publisher} (inv : PublisherInv messageId s)

include inv

theorem PublisherInv.setWorker {worker : Worker}
    (ready : Truthful messageId s.producer worker.ready) :
    PublisherInv messageId { s with worker := worker } :=
  ⟨inv.producer, inv.published, inv.queue, ready⟩

theorem PublisherInv.mark {id : Bytes} {published : Bool} (retryDelaySeconds : UInt32)
    (time : DateTime) (fates : List (Fate Key))
    (truth : id = messageId → published = true → s.producer.Routed messageId) :
    PublisherInv messageId (mark codec owner s id published retryDelaySeconds time fates) := by
  refine ⟨inv.producer, ?_, inv.queue, inv.ready⟩
  by_cases routed : s.producer.Routed messageId
  · exact .inl routed
  refine .inr ((inv.published.resolve_left routed).callStore _ (fun settle same isMessage => ?_) _)
  cases same
  exact Bool.eq_false_iff.mpr fun isPublished => routed (truth isMessage isPublished)

theorem PublisherInv.erase (id : Bytes) : PublisherInv messageId (erase s id) :=
  ⟨inv.producer, inv.published, inv.queue, inv.ready⟩

theorem PublisherInv.drain {completion : Completion} (now : Nat) (time : DateTime)
    (fates : List (Fate Key))
    (truth : completion.messageId = messageId → completion.success = true →
      s.producer.Routed messageId) :
    PublisherInv messageId (drain codec config owner s completion now time fates) := by
  unfold Messaging.drain
  split
  · exact inv
  split
  case isTrue inTime => exact (inv.erase _).mark _ _ _ fun isMessage _ => truth isMessage inTime.1
  case isFalse => exact (inv.erase _).mark _ _ _ fun _ => nofun

theorem PublisherInv.publishRow (id : Bytes) (row : JudgeOutbox) (now : Nat) (time : DateTime)
    (fates : List (Fate Key)) :
    PublisherInv messageId (publishRow codec config owner s id row now time fates) := by
  unfold Messaging.publishRow
  split
  · exact inv
  split
  case h_2 => exact inv.mark _ _ _ fun _ => nofun
  case h_1 producer accepted =>
    unfold MQProducer.publishConfirmed at accepted
    split at accepted <;> cases accepted
    exact ⟨inv.producer.of_same rfl rfl rfl, inv.published, inv.queue, inv.ready⟩

end

theorem drain_producer (s : Publisher) (completion : Completion) (now : Nat) (time : DateTime)
    (fates : List (Fate Key)) :
    (drain codec config owner s completion now time fates).producer = s.producer := by
  unfold drain
  split
  · rfl
  · split <;> rfl

variable {t : Publisher} {s : Publisher}

theorem PublisherInv.work (inv : PublisherInv messageId s) {now : Nat} {time : DateTime}
    {fates : List (Fate Key)}
    (taken : work codec config owner s now time fates = some t) : PublisherInv messageId t := by
  have nothing : ∀ {producer : MQProducer}, Truthful messageId producer [] :=
    fun _ mem => absurd mem not_mem_nil
  unfold Messaging.work at taken
  split at taken
  case h_1 =>
    cases taken
    exact ⟨inv.producer, inv.published, nothing, inv.queue⟩
  case h_2 completion rest last isDraining =>
    cases taken
    have ready := inv.ready
    rw [isDraining] at ready
    refine (inv.drain now time fates (ready completion mem_cons_self)).setWorker ?_
    rw [drain_producer]
    exact fun later mem => ready later (mem_cons_of_mem _ mem)
  case h_3 =>
    cases taken
    refine inv.setWorker ?_
    split <;> exact nothing
  case h_4 =>
    split at taken <;> cases taken
    · exact inv.setWorker nothing
    · refine PublisherInv.setWorker ((inv.erase _).mark _ _ _ ?_) nothing
      exact fun _ => nofun
  case h_5 =>
    cases taken
    exact inv.setWorker nothing
  case h_6 =>
    have published : ∀ {answer db}, callStore codec s.db (.claim (claimCall config owner time))
        fates = (answer, db) → s.producer.Routed messageId ∨ Unpublished messageId db := by
      intro answer db called
      refine inv.published.imp_right fun unpublished => ?_
      have kept : Unpublished messageId
          (callStore codec s.db (.claim (claimCall config owner time)) fates).2 :=
        unpublished.callStore _ (fun settle same => by cases same) fates
      rwa [called] at kept
    split at taken <;> cases taken
    · exact ⟨inv.producer, published ‹_›, inv.queue, nothing⟩
    · exact ⟨inv.producer, published ‹_›, inv.queue, nothing⟩
  case h_7 =>
    split at taken <;> cases taken
    · exact (inv.publishRow _ _ _ _ _).setWorker nothing
    · exact inv.setWorker nothing
  case h_8 =>
    cases taken
    exact inv.setWorker nothing
  case h_9 =>
    cases taken
    exact inv.setWorker nothing
  case h_10 => cases taken

theorem PublisherInv.event (inv : PublisherInv messageId s) {event : MQProducer.Event}
    (alone : s.producer.ReturnsAlone event)
    (taken : publisherStep codec config owner s (.event event) = some t) :
    PublisherInv messageId t := by
  obtain ⟨⟨producer, completion⟩, stepped, rfl⟩ := Option.map_eq_some_iff.mp taken
  obtain ⟨kept, mono, truth⟩ := inv.producer.step alone stepped
  have truthful : ∀ {completions}, Truthful messageId s.producer completions →
      Truthful messageId producer completions :=
    fun before told mem isMessage success => mono (before told mem isMessage success)
  have published := inv.published.imp_left mono
  have quiet : PublisherInv messageId { s with producer := producer } :=
    ⟨kept, published, truthful inv.queue, truthful inv.ready⟩
  cases completion with
  | none => exact quiet
  | some completion =>
    dsimp only [complete]
    split
    case isFalse => exact quiet
    case isTrue =>
      refine ⟨kept, published, fun told mem => ?_, truthful inv.ready⟩
      rcases mem_append.mp mem with before | new
      · exact truthful inv.queue told before
      · exact truth told (congrArg some (mem_singleton.mp new).symm)

def ReturnsAlone (s : Publisher) : Action → Prop
  | .event event => s.producer.ReturnsAlone event
  | _ => True

theorem PublisherInv.step (inv : PublisherInv messageId s) {action : Action}
    (alone : ReturnsAlone s action) (taken : publisherStep codec config owner s action = some t) :
    PublisherInv messageId t := by
  cases action with
  | start =>
    rw [publisherStep] at taken
    split at taken <;> cases taken
    exact ⟨inv.producer, inv.published, inv.queue, fun _ mem => absurd mem not_mem_nil⟩
  | stop =>
    cases taken
    exact ⟨inv.producer, inv.published, inv.queue, inv.ready⟩
  | work => exact inv.work taken
  | event event => exact inv.event alone taken
  | store call fates =>
    rw [publisherStep] at taken
    split at taken
    case isFalse => cases taken
    case isTrue foreign =>
      cases taken
      refine ⟨inv.producer, inv.published.imp_right fun unpublished => ?_, inv.queue, inv.ready⟩
      refine unpublished.callStore call (fun settle same => ?_) fates
      rw [same] at foreign
      cases foreign

end

/-- **A published message was routed**, in every run in which no publish is returned while an
earlier one of its message, that was returned, waits for its acknowledgement. -/
theorem published_row_was_routed (codec : Codec) (config : Config) (owner : String)
    (initial : Tables) (s : Publisher)
    (reachable : (publisherSystem codec config owner initial).ReachableUnder ReturnsAlone s)
    (messageId : Bytes) (unpublished : Unpublished messageId initial) (row : JudgeOutbox)
    (found : s.db.outbox messageId = some row) (published : row.status = .published) :
    s.producer.Routed messageId := by
  have inv : PublisherInv messageId s := by
    refine reachable.induct ⟨⟨?_, ?_, ?_⟩, .inr unpublished, ?_, ?_⟩ fun _ alone step inv => ?_
    · intro number sent found
      cases found
    · rintro number ⟨sent, waits, _⟩
      cases waits
    · rintro number _ ⟨sent, waits, _⟩
      cases waits
    · exact fun _ mem => absurd mem not_mem_nil
    · exact fun _ mem => absurd mem not_mem_nil
    · exact inv.step alone step
  exact inv.published.resolve_right fun never => never row found published

/-! ## Two runs -/

def pendingTables : Tables := emptyTables.setOutbox [7] { payload := [1], createdAt := 0 }

def workAt (now : Nat) (steps : Nat) : List Action :=
  replicate steps (.work now (1000 * now)
    [.answered { rows := [.outbox [7]] }, .answered {}, .answered {}])

def publishRun : List Action :=
  [.start, .event .ready] ++ workAt 0 6 ++ [.event .command]

def routedIds (s : Publisher) : List Bytes :=
  (s.producer.sent.filter fun sent => sent.confirm = some .ack && !sent.returned).map (·.messageId)

theorem not_routed_of_routedIds {s : Publisher} {messageId : Bytes}
    (unknown : messageId ∉ routedIds s) : ¬ s.producer.Routed messageId := by
  rintro ⟨number, sent, found, isMessage, acked, kept⟩
  refine unknown (mem_map.mpr ⟨sent, mem_filter.mpr ⟨?_, ?_⟩, isMessage⟩)
  · exact mem_of_getElem? found
  · simp [acked, kept]

def isPublished (s : Publisher) : Bool :=
  (s.db.outbox [7]).any (·.status = .published)

def returnsNone (_ : Publisher) : Action → Bool
  | .event (.recalled _) => false
  | _ => true

theorem returnsAlone_of_returnsNone (s : Publisher) (action : Action)
    (none' : returnsNone s action = true) : ReturnsAlone s action := by
  cases action with
  | event event =>
    cases event with
    | recalled => cases none'
    | _ => trivial
  | _ => trivial

theorem published_row_was_routed_once :
    ∃ s : Publisher,
      (publisherSystem sampleCodec {} "a" pendingTables).ReachableUnder ReturnsAlone s ∧
      isPublished s = true ∧ s.producer.Routed [7] := by
  obtain ⟨s, reachable, published⟩ :=
      (publisherSystem sampleCodec {} "a" pendingTables).exists_of_runUnder returnsNone
        (publishRun ++ [.event (.confirmed 0 .ack)] ++ workAt 100 3) isPublished (by decide +kernel)
  have alone := reachable.mono returnsAlone_of_returnsNone
  obtain ⟨row, found, status⟩ := (Option.any_eq_true _ _).mp published
  refine ⟨s, alone, published, ?_⟩
  refine published_row_was_routed sampleCodec {} "a" pendingTables s alone [7] ?_ row found
    (of_decide_eq_true status)
  intro row found
  cases found
  decide

/-- Both publishes are returned before the first is acknowledged.  That counts as a failure, and the
acknowledgement of the second, when the message is in flight again, as a success. -/
theorem published_without_route :
    ∃ s : Publisher, (publisherSystem sampleCodec {} "a" pendingTables).Reachable s ∧
      isPublished s = true ∧ ¬ s.producer.Routed [7] := by
  obtain ⟨s, reachable, check⟩ := (publisherSystem sampleCodec {} "a" pendingTables).exists_of_run
    (publishRun ++ [.event (.recalled 0)] ++ workAt 10000 5 ++ workAt 13000 3 ++
      [.event .command, .event (.recalled 1), .event (.confirmed 0 .ack)] ++ workAt 14000 5 ++
      workAt 20000 3 ++ [.event (.confirmed 1 .ack)] ++ workAt 21000 3)
    (fun s => isPublished s && decide ([7] ∉ routedIds s)) (by decide +kernel)
  rw [Bool.and_eq_true, decide_eq_true_eq] at check
  exact ⟨s, reachable, check.1, not_routed_of_routedIds check.2⟩

end OnlineJudge.Messaging
