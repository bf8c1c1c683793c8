import OnlineJudge.Store.Consistency

/-!
# Verdicts and lost updates

`MarkOutboxTerminal` reads a submission without a lock and writes the whole row back with
`SYSTEM_ERROR` when it saw it waiting (`verdict_overwritten_by_terminal`).
-/

namespace OnlineJudge.Store

open Delivery RepeatableRead Option Tables TransitionSystem

variable {codec : Codec} {snapshot base after : Tables}

structure Verdict where
  status : SubmissionStatus
  resultJson : Option Bytes
  isPass : Option Bool
  resultVersion : UInt64
  deriving DecidableEq

def Submission.verdict (submission : Submission) : Verdict :=
  ⟨submission.status, submission.resultJson, submission.isPass, submission.resultVersion⟩

def Tables.verdict (db : Tables) (id : UInt64) : Option Verdict :=
  (db.submission id).map (·.verdict)

def Applied (db : Tables) (id : UInt64) : Prop :=
  ∃ messageId receipt, db.receipt messageId = some receipt ∧ receipt.submissionId = some id

/-- The submissions that `ClaimPendingOutbox` writes. -/
def givesUpSubmission : Call → Key → Prop
  | .claim _, .submission _ => True
  | _, _ => False

variable {id : UInt64}

theorem kept_of_same (applied : Applied base id)
    (receipts : ∀ messageId receipt, base.receipt messageId = some receipt →
      after.receipt messageId = some receipt)
    (same : after.submission id = base.submission id) :
    after.verdict id = base.verdict id ∧ Applied after id := by
  obtain ⟨messageId, receipt, found, isFor⟩ := applied
  exact ⟨by rw [verdict, same]; rfl, messageId, receipt, receipts _ _ found, isFor⟩

theorem Claims.verdict_kept {call : ClaimCall} (consistent : Consistent codec base)
    (claims : Claims call snapshot base after) (applied : Applied base id)
    (seen : after.submission id ≠ base.submission id →
      snapshot.submission id = base.submission id) :
    after.verdict id = base.verdict id ∧ Applied after id := by
  refine kept_of_same applied (fun messageId receipt found => ?_) ?_
  · rw [claims.receipt messageId, found]
  by_contra changed
  rcases claims.submission id with same | ⟨_, _, submission, _, _, _, _, shown, waits, _⟩
  · exact changed same
  -- the row that was seen waiting is the committed one, and that has its verdict
  obtain ⟨messageId, receipt, found, isFor⟩ := applied
  obtain ⟨⟨submission', found', verdict⟩, _⟩ := consistent.applied _ _ _ found isFor
  have same := (shown.symm.trans (seen changed)).trans found'
  cases same
  rw [verdict] at waits
  cases waits

theorem Applies.verdict_kept {call : ResultCall} {entry : Tables}
    (consistent : Consistent codec base)
    (admitted : (workload codec).admits entry (.apply call) = true) (since : Later entry base)
    (applies : Applies codec call snapshot base after) (applied : Applied base id) :
    after.verdict id = base.verdict id ∧ Applied after id := by
  -- an existing receipt is not overwritten, since the key of the new one is free
  have receipts : ∀ row messageId receipt, base.receipt call.request.messageId = none →
      base.receipt messageId = some receipt →
      (base.setReceipt call.request.messageId row).receipt messageId = some receipt := by
    intro row messageId receipt free found
    have other : messageId ≠ call.request.messageId := by
      rintro rfl
      rw [free] at found
      cases found
    simp [other, found]
  rcases applies with ⟨id', applies⟩ | ⟨id', target, free, rfl⟩ | rfl
  · obtain ⟨submission, json, line, target, _, _, _, _, _, free, rfl⟩ := applies
    have other : id ≠ id' := by
      rintro rfl
      obtain ⟨_, row, task, found, parsed, isMessage, isTarget⟩ := admitted_apply admitted
      obtain ⟨row', found', same⟩ := since.outbox _ _ found
      obtain ⟨messageId, receipt, stored, isFor⟩ := applied
      obtain ⟨_, row'', found'', names⟩ := consistent.applied _ _ _ stored isFor
      have mine : messageId = call.request.messageId :=
        consistent.unique _ _ _ _ _ found'' found' names
          (same.names ⟨task, parsed, isMessage, isTarget.trans target⟩)
      rw [mine, free] at stored
      cases stored
    refine kept_of_same applied (fun messageId receipt found => ?_) (by simp [other])
    have kept := receipts (newReceipt call.request call.customExpiresAt (.submission id'))
      messageId receipt free found
    simpa using kept
  · exact kept_of_same applied (fun messageId receipt found => receipts _ _ _ free found) (by simp)
  · exact kept_of_same applied (fun _ _ found => found) rfl

/-- **One commit keeps the verdicts that were applied.** -/
theorem verdict_kept_of_committed {call : Call} {entry : Tables}
    (consistent : Consistent codec base) (admitted : (workload codec).admits entry call = true)
    (since : Later entry base) (committed : Committed codec snapshot base after call)
    (seen : ∀ k, givesUpSubmission call k → after k ≠ base k → snapshot k = base k)
    (applied : Applied base id) : after.verdict id = base.verdict id ∧ Applied after id := by
  cases call with
  | create =>
    obtain ⟨id', payload, _, fresh, _, rfl⟩ := committed
    have other : id ≠ id' := by
      rintro rfl
      obtain ⟨messageId, receipt, found, isFor⟩ := applied
      obtain ⟨⟨submission, found', _⟩, _⟩ := consistent.applied _ _ _ found isFor
      rw [fresh] at found'
      cases found'
    exact kept_of_same applied (fun _ _ found => by simpa using found) (by simp [other])
  | createCustom =>
    obtain ⟨_, _, _, _, _, rfl⟩ := committed
    exact kept_of_same applied (fun _ _ found => by simpa using found) (by simp)
  | claim => exact Claims.verdict_kept consistent committed applied (seen _ trivial)
  | settle =>
    obtain ⟨_, _, _, _, rfl⟩ := committed
    exact kept_of_same applied (fun _ _ found => by simpa using found) (by simp)
  | apply => exact Applies.verdict_kept consistent admitted since committed applied

def KeepsVerdicts (_ : Call) (db db' : Tables) : Prop :=
  Later db db' ∧ ∀ id, Applied db id → db'.verdict id = db.verdict id ∧ Applied db' id

def verdictOutline (codec : Codec) : Outline (workload codec) (Unchanged givesUpSubmission) :=
  ofCommitted codec givesUpSubmission (Consistent codec) Later KeepsVerdicts .refl .trans (·.1)
    fun admitted consistent' consistent since before committed seen =>
      ⟨consistent.committed consistent' admitted (since.trans before) before committed,
        later_of_committed admitted before committed, fun _ =>
          verdict_kept_of_committed consistent admitted (since.trans before) committed seen⟩

/-- **A verdict that was applied stays**, in every run in which `ClaimPendingOutbox` commits a
submission only when the row is still as its snapshot showed it. -/
theorem applied_verdict_kept (codec : Codec) (initial : Tables)
    (consistent : Consistent codec initial) (s t : State (workload codec))
    (reachable : (system (workload codec) initial).ReachableUnder
      (CommitsWhen (Unchanged givesUpSubmission)) s)
    (later : (system (workload codec) initial).ReachesUnder
      (CommitsWhen (Unchanged givesUpSubmission)) s t)
    (id : UInt64) (applied : Applied s.db id) :
    verdict t.db id = verdict s.db id := by
  refine (later.induct (P := fun t => verdict t.db id = verdict s.db id ∧
    Applied t.db id) ⟨rfl, applied⟩ ?_).1
  intro t u action before allowed step ⟨same, applied'⟩
  have sound := (verdictOutline codec).sound_of_reachable consistent (reachable.trans before)
  rcases sound.db_step allowed step with unchanged | ⟨_, _, call, _, _, _, _, _, _, _, _, stepped⟩
  · rw [unchanged]
    exact ⟨same, applied'⟩
  · obtain ⟨kept, applied''⟩ := stepped.2 id applied'
    exact ⟨kept.trans same, applied''⟩

/-- An accepted result for the submission of `sampleTask`. -/
def sampleApply : Call :=
  .apply
    { request := { messageId := [7], target := some (.submission 1), resultPayload := [8, 4] }
      result := { status := .accepted }
      customExpiresAt := 0
      now := 20 }

def createdRun : List (Action (workload sampleCodec)) :=
  [.start 0 sampleCreate, .proceed 0 { number := 1 }, .proceed 0 {}, .proceed 0 {}]

/-- Session `i` applies the result, from its first read to its commit. -/
def applyRun (i : Nat) : List (Action (workload sampleCodec)) :=
  [.start i sampleApply, .proceed i {}, .proceed i {}, .proceed i {}, .proceed i {},
    .proceed i {}, .proceed i {}]

/-- The commits of other methods, and of calls of `ClaimPendingOutbox` that have read no submission.
-/
def commitsBlindly (s : State (workload sampleCodec)) : Action (workload sampleCodec) → Bool
  | .proceed i _ =>
    match s.sessions i with
    | .running (.claim _) progress _ _ _ => progress.snapshot.isNone
    | _ => true
  | _ => true

theorem commitsWhen_of_commitsBlindly (s : State (workload sampleCodec))
    (action : Action (workload sampleCodec)) (blind : commitsBlindly s action = true) :
    CommitsWhen (Unchanged givesUpSubmission) s action := by
  cases action with
  | proceed =>
    intro call progress result onError faulted running k isKind _ snapshot taken
    cases call with
    | claim =>
      rw [commitsBlindly, running] at blind
      change progress.snapshot.isNone = true at blind
      rw [taken] at blind
      cases blind
    | _ => exact isKind.elim
  | _ => trivial

/-- The message is sent twice, before and after its result is applied. -/
theorem applied_verdict_kept_resent :
    ∃ s t : State (workload sampleCodec),
      (receipt s.db [7]).any (·.submissionId = some 1) = true ∧
      (outbox s.db [7]).map (·.attemptCount) = some 1 ∧
      (outbox t.db [7]).map (·.attemptCount) = some 2 ∧
      verdict t.db 1 = verdict s.db 1 := by
  obtain ⟨s, t, reachable, check, later, twice⟩ :=
    (system (workload sampleCodec) emptyTables).exists_of_runsUnder commitsBlindly
      (createdRun ++ [.start 1 (sampleClaim "a" 1), .proceed 1 { rows := [.outbox [7]] },
        .proceed 1 {}, .proceed 1 {}] ++ applyRun 2)
      [.start 3 (sampleClaim "a" 30000001), .proceed 3 { rows := [.outbox [7]] },
        .proceed 3 {}, .proceed 3 {}]
      (fun s => (receipt s.db [7]).any (·.submissionId = some 1) &&
        decide ((outbox s.db [7]).map (·.attemptCount) = some 1))
      (fun t => decide ((outbox t.db [7]).map (·.attemptCount) = some 2)) (by decide +kernel)
  rw [Bool.and_eq_true, decide_eq_true_eq] at check
  obtain ⟨applied, once⟩ := check
  obtain ⟨receipt, stored, isFor⟩ := (any_eq_true _ _).mp applied
  exact ⟨s, t, applied, once, of_decide_eq_true twice,
    applied_verdict_kept sampleCodec emptyTables (consistent_emptyTables _) s t
      (reachable.mono commitsWhen_of_commitsBlindly) (later.mono commitsWhen_of_commitsBlindly) 1
      ⟨[7], receipt, stored, of_decide_eq_true isFor⟩⟩

/-- `ClaimPendingOutbox` has read the waiting submission when its result is applied, and
writes it back as `SYSTEM_ERROR` afterwards. -/
theorem verdict_overwritten_by_terminal :
    ∃ s t : State (workload sampleCodec),
      (system (workload sampleCodec) emptyTables).Reachable s ∧
      (system (workload sampleCodec) emptyTables).Reaches s t ∧ Applied s.db 1 ∧
      (verdict s.db 1).map (·.status) = some .accepted ∧
      (verdict t.db 1).map (·.status) = some .systemError := by
  obtain ⟨s, reachable, check⟩ := (system (workload sampleCodec) emptyTables).exists_of_run
    (createdRun ++ [.start 1 (sampleClaim "a" 900000001), .proceed 1 { rows := [.outbox [7]] },
      .proceed 1 {}, .proceed 1 {}] ++ applyRun 2)
    (fun s => (receipt s.db [7]).any (·.submissionId = some 1) &&
      decide ((verdict s.db 1).map (·.status) = some .accepted) &&
      ((system (workload sampleCodec) emptyTables).run s [.proceed 1 {}, .proceed 1 {}]).any
        fun t => decide ((verdict t.db 1).map (·.status) = some .systemError))
    (by decide +kernel)
  rw [Bool.and_eq_true, Bool.and_eq_true, decide_eq_true_eq] at check
  obtain ⟨⟨applied, accepted⟩, lost⟩ := check
  obtain ⟨t, ran, overwritten⟩ := (any_eq_true _ _).mp lost
  obtain ⟨receipt, stored, isFor⟩ := (any_eq_true _ _).mp applied
  exact ⟨s, t, reachable, run_reaches ran,
    ⟨[7], receipt, stored, of_decide_eq_true isFor⟩, accepted, of_decide_eq_true overwritten⟩

end OnlineJudge.Store
