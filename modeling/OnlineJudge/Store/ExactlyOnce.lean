import OnlineJudge.Store.Consistency

/-!
# A result is applied exactly once

Calls of `ApplyJudgeResult` for one message wait for each other at the row of the submission; the
one that commits leaves a receipt, on whose key the next one fails and compares.
-/

namespace OnlineJudge.Store

open Delivery RepeatableRead

/-- The calls of `ApplyJudgeResult` for one message and submission. -/
def reportWorkload (codec : Codec) (messageId : Bytes) (id : UInt64) : Workload Row Answer where
  Call := { call : ResultCall // call.request.messageId = messageId ∧
    call.request.target = some (.submission id) }
  procedure call := applyJudgeResult codec call
  admits _ _ := true

section

variable {codec : Codec} {messageId : Bytes} {id : UInt64} {initial db db' base : Tables}

structure Submitted (messageId : Bytes) (id : UInt64) (db : Tables) : Prop where
  named : messageId ≠ []
  submission : (db.submission id).isSome = true
  receipt : ∀ receipt, db.receipt messageId = some receipt → receipt.submissionId = some id

def AtMostOnce (codec : Codec) (messageId : Bytes) (id : UInt64) (initial db : Tables) : Prop :=
  db = initial ∨ ∃ call : (reportWorkload codec messageId id).Call,
    AppliesTo codec call.1 id initial initial db

def Follows (messageId : Bytes) (initial db db' : Tables) : Prop :=
  db = db' ∨ db = initial ∧ initial.receipt messageId = none

def AppliesOnce (codec : Codec) (messageId : Bytes) (id : UInt64) (initial : Tables)
    (call : (reportWorkload codec messageId id).Call) (answer : Answer) (db db' : Tables) : Prop :=
  answer = .applied .persisted ∧ db = initial ∧ AppliesTo codec call.1 id initial initial db' ∨
    answer ≠ .applied .persisted ∧ db' = db

def Justified (codec : Codec) (messageId : Bytes) (id : UInt64) (initial : Tables)
    (call : (reportWorkload codec messageId id).Call) (faulted : Bool) (db : Tables) :
    Answer → Prop
  | .applied .persisted => AppliesTo codec call.1 id initial initial db
  | .applied .idempotent => ∃ receipt, db.receipt messageId = some receipt ∧
      receipt.resultPayload = call.1.request.resultPayload
  | .applied .conflict => ∃ receipt, db.receipt messageId = some receipt ∧
      receipt.resultPayload ≠ call.1.request.resultPayload
  | .applied .retryableFailure => faulted = true ∨ codec.messageToJson call.1.result = none
  | _ => False

def Underway (codec : Codec) (messageId : Bytes) (id : UInt64)
    (call : (reportWorkload codec messageId id).Call) (procedure : TableProcedure)
    (faulted : Bool) (db : Tables) : Prop :=
  procedure = applyJudgeResult codec call.1 ∨
    procedure = recoverApply call.1.request ∧
      (faulted = true ∨ (db.receipt messageId).isSome = true) ∨
    procedure = .done (.applied .retryableFailure) ∧ faulted = true

/-! ## Receipts -/

variable {call : (reportWorkload codec messageId id).Call} {answer : Answer} {faulted : Bool}
    {entry : Tables}

theorem AppliesTo.receipt_eq (applies : AppliesTo codec call.1 id initial base db) :
    db.receipt messageId =
      some (newReceipt call.1.request call.1.customExpiresAt (.submission id)) := by
  obtain ⟨_, _, _, _, _, _, _, _, _, _, rfl⟩ := applies
  simp [call.2.1]

theorem AppliesTo.unknown (applies : AppliesTo codec call.1 id initial base db) :
    initial.receipt messageId = none := by
  obtain ⟨_, _, _, _, unknown, _⟩ := applies
  rwa [call.2.1] at unknown

theorem AtMostOnce.receipt (submitted : Submitted messageId id initial)
    (once : AtMostOnce codec messageId id initial db) {receipt : JudgeResultReceipt}
    (found : db.receipt messageId = some receipt) : receipt.submissionId = some id := by
  rcases once with rfl | ⟨call, applies⟩
  · exact submitted.receipt receipt found
  rw [applies.receipt_eq] at found
  cases found
  rfl

theorem AtMostOnce.eq_initial (once : AtMostOnce codec messageId id initial db)
    (absent : db.receipt messageId = none) : db = initial := by
  rcases once with same | ⟨call, applies⟩
  · exact same
  · rw [applies.receipt_eq] at absent
    cases absent

theorem Follows.receipt (follows : Follows messageId initial db db') {receipt : JudgeResultReceipt}
    (found : db.receipt messageId = some receipt) :
    db'.receipt messageId = some receipt := by
  rcases follows with rfl | ⟨rfl, absent⟩
  · exact found
  · rw [found] at absent
    cases absent

theorem Follows.refl (db : Tables) : Follows messageId initial db db := .inl rfl

theorem Follows.trans {db'' : Tables} (first : Follows messageId initial db db')
    (second : Follows messageId initial db' db'') : Follows messageId initial db db'' := by
  rcases first with rfl | changed
  · exact second
  · exact .inr changed

theorem AppliesOnce.follows (step : AppliesOnce codec messageId id initial call answer db db') :
    Follows messageId initial db db' := by
  rcases step with ⟨_, rfl, applies⟩ | ⟨_, rfl⟩
  · exact .inr ⟨rfl, applies.unknown⟩
  · exact .inl rfl

theorem Justified.follows (justified : Justified codec messageId id initial call faulted db answer)
    (follows : Follows messageId initial db db') :
    Justified codec messageId id initial call faulted db' answer := by
  have kept : ∀ {P : JudgeResultReceipt → Prop},
      (∃ receipt, db.receipt messageId = some receipt ∧ P receipt) →
      ∃ receipt, db'.receipt messageId = some receipt ∧ P receipt := by
    rintro P ⟨receipt, found, holds⟩
    exact ⟨receipt, follows.receipt found, holds⟩
  unfold Justified at justified ⊢
  split
  · rcases follows with rfl | ⟨rfl, absent⟩
    · exact justified
    · rw [AppliesTo.receipt_eq justified] at absent
      cases absent
  · exact kept justified
  · exact kept justified
  · exact justified
  · split at justified <;> first | exact justified | simp_all

theorem justified_compare (initial : Tables) (call : (reportWorkload codec messageId id).Call)
    (faulted : Bool) {receipt : JudgeResultReceipt} (found : db.receipt messageId = some receipt)
    (isFor : receipt.submissionId = some id) :
    Justified codec messageId id initial call faulted db
        (.applied (compareReceipt receipt call.1.request)) ∧
      Answer.applied (compareReceipt receipt call.1.request) ≠ .applied .persisted := by
  have matching : receiptMatches receipt call.1.request = true ↔
      receipt.resultPayload = call.1.request.resultPayload := by
    simp [receiptMatches, call.2.2, isFor]
  unfold compareReceipt
  split
  case isTrue same => exact ⟨⟨receipt, found, matching.mp same⟩, by simp⟩
  case isFalse other => exact ⟨⟨receipt, found, fun same => other (matching.mpr same)⟩, by simp⟩

/-! ## One call -/

/-- What `onceOutline` asks of a transaction; `onError` is left if it fails. -/
def Verified (initial entry base : Tables) (call : (reportWorkload codec messageId id).Call)
    (faulted : Bool) (onError : TableProcedure) (body : TableTransaction) : Prop :=
  wlp (fun snapshot => AtMostOnce codec messageId id initial snapshot ∧
      Follows messageId initial entry snapshot ∧ Follows messageId initial snapshot base) base
    { commits := fun progress answer => True →
        AtMostOnce codec messageId id initial (overlay progress.writes base) ∧
        AppliesOnce codec messageId id initial call answer base (overlay progress.writes base) ∧
        Justified codec messageId id initial call faulted (overlay progress.writes base) answer
      returns := fun _ answer =>
        Justified codec messageId id initial call faulted base answer ∧ answer ≠ .applied .persisted
      raises := fun fault => Underway codec messageId id call onError (faulted || fault) base }
    body {}

theorem wlp_apply_once (submitted : Submitted messageId id initial)
    (call : (reportWorkload codec messageId id).Call) (faulted : Bool)
    (once : AtMostOnce codec messageId id initial base) :
    Verified initial entry base call faulted (recoverApply call.1.request)
      (applyBody codec call.1) := by
  obtain ⟨submission, exists'⟩ := Option.isSome_iff_exists.mp submitted.submission
  apply wlp_applyBody call.2.2
  case compares =>
    intro snapshot receipt _ ⟨once', _, before⟩ found
    rw [call.2.1] at found
    exact justified_compare initial call faulted (before.receipt found)
      (once'.receipt submitted found)
  case missing =>
    intro snapshot _ ⟨once', _, _⟩ absent gone
    rw [call.2.1] at absent
    rw [once'.eq_initial absent, exists'] at gone
    cases gone
  case fails => exact fun failed _ => ⟨.inr failed, by simp⟩
  case gone => exact fun _ => .inr (.inl ⟨rfl, .inl (Bool.or_true _)⟩)
  case duplicate =>
    intro present
    rw [call.2.1] at present
    exact .inr (.inl ⟨rfl, .inr present⟩)
  case commits =>
    intro snapshot progress ⟨once', _, _⟩ _ applies _
    -- neither the snapshot nor the committed tables have a receipt, so both are initial
    have first : snapshot = initial := once'.eq_initial applies.unknown
    have free : base.receipt messageId = none := by
      obtain ⟨_, _, _, _, _, _, _, _, _, free, _⟩ := applies
      rwa [call.2.1] at free
    have second : base = initial := once.eq_initial free
    rw [first, second] at applies
    rw [second]
    exact ⟨.inr ⟨call, applies⟩, .inl ⟨rfl, rfl, applies⟩, applies⟩

theorem recoverApply_of_named {request : UpdateJudgeResultRequest}
    (named : request.messageId ≠ []) :
    recoverApply request =
      .transaction (recoverBody request) (.done (.applied .retryableFailure)) :=
  if_neg named

theorem wlp_recover_once (submitted : Submitted messageId id initial)
    (call : (reportWorkload codec messageId id).Call)
    (reason : faulted = true ∨ (entry.receipt messageId).isSome = true)
    (once : AtMostOnce codec messageId id initial base) :
    Verified initial entry base call faulted (.done (.applied .retryableFailure))
      (recoverBody call.1.request) := by
  intro snapshot sees
  obtain ⟨once', after, before⟩ := past_of_sees sees
  simp only [overlay_empty]
  split
  case h_1 absent =>
    -- the receipt that made the insert fail is in every later snapshot
    have failed : faulted = true := by
      refine reason.resolve_right fun present => ?_
      obtain ⟨receipt, found⟩ := Option.isSome_iff_exists.mp present
      have kept := after.receipt found
      rw [call.2.1] at absent
      exact Option.some_ne_none _ (kept.symm.trans absent)
    exact ⟨.inl failed, by simp⟩
  case h_2 receipt found =>
    rw [call.2.1] at found
    intro _
    have compared := justified_compare initial call faulted (before.receipt found)
      (once'.receipt submitted found)
    exact ⟨once, .inr ⟨compared.2, rfl⟩, compared.1⟩

end

/-! ## All runs -/

def onceOutline (codec : Codec) {messageId : Bytes} {id : UInt64} {initial : Tables}
    (submitted : Submitted messageId id initial) :
    Outline (reportWorkload codec messageId id) (fun _ _ _ => True) where
  Inv := AtMostOnce codec messageId id initial
  Grows := Follows messageId initial
  Step := AppliesOnce codec messageId id initial
  Quiet _ answer := answer ≠ .applied .persisted
  Pre := Underway codec messageId id
  Post call answer faulted db := Justified codec messageId id initial call faulted db answer
  grows_refl := .refl
  grows_trans := .trans
  grows_of_step := AppliesOnce.follows
  post_grows := Justified.follows
  start _ _ := .inl rfl
  done := by
    rintro call answer faulted db _ (first | ⟨recovers, _⟩ | ⟨ended, failed⟩)
    · cases first
    · rw [recoverApply_of_named (call.2.1.trans_ne submitted.named)] at recovers
      cases recovers
    · cases ended
      exact ⟨.inl failed, by simp⟩
  fail := by
    rintro call body onError faulted entry db (first | ⟨recovers, _⟩ | ⟨ended, _⟩) _ _
    · cases first
      exact .inr (.inl ⟨rfl, .inl rfl⟩)
    · rw [recoverApply_of_named (call.2.1.trans_ne submitted.named)] at recovers
      cases recovers
      exact .inr (.inr ⟨rfl, rfl⟩)
    · cases ended
  verify := by
    rintro call body onError faulted entry base (first | ⟨recovers, reason⟩ | ⟨ended, _⟩) once _
    · cases first
      exact wlp_apply_once submitted call faulted once
    · rw [recoverApply_of_named (call.2.1.trans_ne submitted.named)] at recovers
      cases recovers
      exact wlp_recover_once submitted call reason once
    · cases ended

section

variable {codec : Codec} {messageId : Bytes} {id : UInt64} {initial : Tables}

def Persisted (s : State (reportWorkload codec messageId id)) (i : Nat) : Prop :=
  ∃ call faulted, s.sessions i = .returned call (.applied .persisted) faulted

variable {s t : State (reportWorkload codec messageId id)}
    {action : Action (reportWorkload codec messageId id)} {i : Nat}
    {submitted : Submitted messageId id initial}

theorem persisted_step (sound : (onceOutline codec submitted).Sound s)
    (step : sessionStep s action = some t) (persisted : Persisted t i) :
    Persisted s i ∨ i = action.session ∧ s.db = initial ∧ initial.receipt messageId = none := by
  obtain ⟨call, faulted, returned⟩ := persisted
  rcases sound.returned_step (commitsWhen_of_forall (fun _ _ _ => trivial) _ _) step returned with
    before | applied | quiet
  · exact .inl ⟨call, faulted, before⟩
  · rcases applied with ⟨_, same, applies⟩ | ⟨other, _⟩
    · by_cases mine : i = action.session
      · exact .inr ⟨mine, same, applies.unknown⟩
      · rw [sessionStep_others step mine] at returned
        exact .inl ⟨call, faulted, returned⟩
    · exact absurd rfl other
  · exact absurd rfl quiet

theorem Persisted.receipt (sound : (onceOutline codec submitted).Sound s)
    (persisted : Persisted s i) :
    Tables.receipt s.db messageId ≠ none := by
  obtain ⟨call, faulted, returned⟩ := persisted
  have justified := sound.sessions i
  rw [returned] at justified
  rw [AppliesTo.receipt_eq justified]
  exact Option.some_ne_none _

/-- The committed tables change when a call returns `Persisted`, and only then. -/
structure Once (initial : Tables) (s : State (reportWorkload codec messageId id)) : Prop where
  unique : ∀ i j, Persisted s i → Persisted s j → i = j
  unchanged : (∀ i, ¬ Persisted s i) → s.db = initial

theorem Once.step (sound : (onceOutline codec submitted).Sound s) (once : Once initial s)
    (step : sessionStep s action = some t) : Once initial t where
  unique i j first second := by
    -- a second commit would find the receipt of the first
    have impossible : ∀ {k}, Persisted s k → s.db = initial →
        initial.receipt messageId = none → False :=
      fun persisted same absent => persisted.receipt sound (by rw [same, absent])
    rcases persisted_step sound step first with before | ⟨mine, same, absent⟩ <;>
      rcases persisted_step sound step second with before' | ⟨mine', same', absent'⟩
    · exact once.unique i j before before'
    · exact (impossible before same' absent').elim
    · exact (impossible before' same absent).elim
    · rw [mine, mine']
  unchanged nobody := by
    have before : ∀ i, ¬ Persisted s i := by
      rintro i ⟨call, faulted, returned⟩
      exact nobody i ⟨call, faulted, sessionStep_returned step returned⟩
    have same := once.unchanged before
    rcases sound.db_step (commitsWhen_of_forall (fun _ _ _ => trivial) _ _) step with
      kept | ⟨i, _, call, _, answer, _, faulted, _, _, returned, _, applied⟩
    · rw [kept, same]
    rcases applied with ⟨rfl, _⟩ | ⟨_, kept⟩
    · exact absurd ⟨call, faulted, returned⟩ (nobody i)
    · rw [kept, same]

end

/-- **A result is applied exactly once**: at most one call has returned `Persisted`, the tables are
the initial ones with its result applied, and every other answer is justified. -/
theorem judge_result_applied_once (codec : Codec) (messageId : Bytes) (id : UInt64)
    (initial : Tables) (submitted : Submitted messageId id initial)
    (s : State (reportWorkload codec messageId id))
    (reachable : (system (reportWorkload codec messageId id) initial).Reachable s) :
    (∀ i j, Persisted s i → Persisted s j → i = j) ∧
    ((∀ i, ¬ Persisted s i) → s.db = initial) ∧
    ∀ i call answer faulted, s.sessions i = .returned call answer faulted →
      Justified codec messageId id initial call faulted s.db answer := by
  have always := fun (s : State (reportWorkload codec messageId id)) action =>
    commitsWhen_of_forall (fun _ _ _ => trivial) s action
  have all := reachable.mono fun s action _ => always s action
  have sound := fun s reachable =>
    (onceOutline codec submitted).sound_of_reachable (.inl rfl) (s := s) reachable
  have once : Once initial s := by
    refine (all.induct (P := fun s => (onceOutline codec submitted).Sound s ∧ Once initial s)
      ⟨sound _ (.refl _), ?_⟩ ?_).2
    · refine ⟨fun i j persisted => ?_, fun _ => rfl⟩
      obtain ⟨_, _, idle⟩ := persisted
      cases idle
    · intro s t action _ allowed step ⟨sound, once⟩
      exact ⟨sound.step allowed step, once.step sound step⟩
  refine ⟨once.unique, once.unchanged, fun i call answer faulted returned => ?_⟩
  have justified := (sound s all).sessions i
  rw [returned] at justified
  exact justified

/-! ## Two overlapping calls -/

def sampleReport (payload : Bytes) : (reportWorkload sampleCodec [7] 1).Call :=
  ⟨{ request := { messageId := [7], target := some (.submission 1), resultPayload := payload }
     result := { status := .accepted }
     customExpiresAt := 0
     now := 20 }, rfl, rfl⟩

def submittedTables : Tables :=
  emptyTables.setSubmission 1
    { userId := 3, questionId := [1], code := some [97], language := none, status := .queued,
      createdAt := 0 }

/-- Both calls find no receipt; the second one waits for the row of the submission. -/
def overlappingRun : List (Action (reportWorkload sampleCodec [7] 1)) :=
  [.start 0 (sampleReport [8, 4]), .start 1 (sampleReport [8, 5]), .proceed 0 {}, .proceed 1 {},
    .proceed 0 {}, .proceed 1 {}, .proceed 0 {}, .proceed 0 { number := 1 }, .proceed 0 {},
    .proceed 0 {}, .proceed 1 {}, .proceed 1 { number := 2 }, .proceed 1 {}, .proceed 1 {},
    .proceed 1 {}]

def hasReturned (s : State (reportWorkload sampleCodec [7] 1)) (i : Nat) (outcome : ApplyOutcome) :
    Bool :=
  match s.sessions i with
  | .returned _ answer faulted => decide (answer = .applied outcome) && !faulted
  | _ => false

theorem of_hasReturned {s : State (reportWorkload sampleCodec [7] 1)} {i : Nat}
    {outcome : ApplyOutcome} (has : hasReturned s i outcome = true) :
    ∃ call, s.sessions i = .returned call (.applied outcome) false := by
  unfold hasReturned at has
  split at has
  case h_1 call answer faulted returned =>
    rw [Bool.and_eq_true, decide_eq_true_eq, Bool.not_eq_true'] at has
    rw [returned, has.1, has.2]
    exact ⟨call, rfl⟩
  case h_2 => cases has

theorem judge_result_applied_once_overlapping :
    ∃ s : State (reportWorkload sampleCodec [7] 1),
      (system (reportWorkload sampleCodec [7] 1) submittedTables).Reachable s ∧
      Persisted s 0 ∧ ¬ Persisted s 1 ∧
      ∃ call receipt, s.sessions 1 = .returned call (.applied .conflict) false ∧
        Tables.receipt s.db [7] = some receipt ∧
        receipt.resultPayload ≠ call.1.request.resultPayload := by
  obtain ⟨s, reachable, check⟩ :=
      (system (reportWorkload sampleCodec [7] 1) submittedTables).exists_of_run
        overlappingRun (fun s => hasReturned s 0 .persisted && hasReturned s 1 .conflict)
        (by decide +kernel)
  rw [Bool.and_eq_true] at check
  obtain ⟨first, returned⟩ := of_hasReturned check.1
  obtain ⟨second, returned'⟩ := of_hasReturned check.2
  obtain ⟨unique, _, justified⟩ := judge_result_applied_once sampleCodec [7] 1 submittedTables
    ⟨by decide, rfl, by intro receipt found; cases found⟩ s reachable
  have persisted : Persisted s 0 := ⟨first, false, returned⟩
  have other : ¬ Persisted s 1 := fun again => absurd (unique 0 1 persisted again) (by decide)
  obtain ⟨receipt, found, differs⟩ := justified 1 second _ false returned'
  exact ⟨s, reachable, persisted, other, second, receipt, returned', found, differs⟩

end OnlineJudge.Store
