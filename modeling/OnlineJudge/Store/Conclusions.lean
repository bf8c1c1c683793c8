import OnlineJudge.Store.Consistency

/-!
# Messages that are concluded

A message is concluded when its submission has its verdict.  A message with a receipt is concluded
(`Conflict`), and the submission of an outbox row is never missing (`NotFound`).
-/

namespace OnlineJudge.Store

open Delivery RepeatableRead

variable {codec : Codec} {snapshot base after : Tables}

def Concluded (messageId : Bytes) (db : Tables) : Prop :=
  ∃ row, db.outbox messageId = some row ∧ ∀ id, row.submissionId = some id →
    ∃ submission, db.submission id = some submission ∧ waiting submission.status = false

variable {messageId payload : Bytes} {task : JudgeTaskMessage} {call : Call}

theorem Concluded.later (concluded : Concluded messageId base) (later : Later base after) :
    Concluded messageId after := by
  obtain ⟨row, found, verdict⟩ := concluded
  obtain ⟨row', found', same⟩ := later.outbox _ _ found
  exact ⟨row', found', fun id names => later.hasVerdict (verdict id (same.2.symm.trans names))⟩

def Carries (codec : Codec) (messageId payload : Bytes) (task : JudgeTaskMessage) (db : Tables) :
    Prop :=
  ∃ row, db.outbox messageId = some row ∧ row.payload = payload ∧
    codec.parseTask payload = some task ∧ task.messageId = messageId

section

variable (carries : Carries codec messageId payload task base)
include carries

theorem Carries.later (later : Later base after) : Carries codec messageId payload task after := by
  obtain ⟨row, found, isPayload, rest⟩ := carries
  obtain ⟨row', found', same⟩ := later.outbox _ _ found
  exact ⟨row', found', same.1.trans isPayload, rest⟩

theorem Carries.unique {payload' : Bytes} {task' : JudgeTaskMessage}
    (carries' : Carries codec messageId payload' task' base) : payload = payload' := by
  obtain ⟨row, found, rfl, _⟩ := carries
  obtain ⟨row', found', rfl, _⟩ := carries'
  rw [Option.some.inj (found.symm.trans found')]

theorem Carries.concluded_of_custom {id : Bytes} (consistent : Consistent codec base)
    (target : task.target = some (.custom id)) : Concluded messageId base := by
  obtain ⟨row, found, rfl, parsed, _⟩ := carries
  refine ⟨row, found, fun id' names => ?_⟩
  obtain ⟨task', parsed', _, target'⟩ := consistent.column _ _ _ found names
  cases parsed.symm.trans parsed'
  rw [target] at target'
  cases target'

theorem Carries.concluded_of_submission {id : UInt64} {submission : Submission}
    (consistent : Consistent codec base) (target : task.target = some (.submission id))
    (found : base.submission id = some submission) (verdict : waiting submission.status = false) :
    Concluded messageId base := by
  obtain ⟨row, isRow, rfl, parsed, _⟩ := carries
  refine ⟨row, isRow, fun id' names => ?_⟩
  obtain ⟨task', parsed', _, target'⟩ := consistent.column _ _ _ isRow names
  cases parsed.symm.trans parsed'
  obtain rfl : id = id' := by simpa using target.symm.trans target'
  exact ⟨submission, found, verdict⟩

end

theorem carries_of_admitted {call : ResultCall}
    (admitted : (workload codec).admits base (.apply call) = true) :
    ∃ payload task, Carries codec call.request.messageId payload task base ∧
      task.target = call.request.target := by
  obtain ⟨_, row, task, found, parsed, sameMessage, sameTarget⟩ := admitted_apply admitted
  exact ⟨row.payload, task, ⟨row, found, rfl, parsed, sameMessage⟩, sameTarget⟩

/-- Consistent tables where every message with a receipt is concluded and no submission is
in the status `PENDING`, which no method writes. -/
structure Conclusive (codec : Codec) (db : Tables) : Prop where
  consistent : Consistent codec db
  receipt : ∀ messageId, (db.receipt messageId).isSome = true → Concluded messageId db
  status : ∀ id submission, db.submission id = some submission → submission.status ≠ .pending

section

variable (conclusive : Conclusive codec base)
include conclusive

theorem Conclusive.final {row : JudgeOutbox} {id : UInt64} (concluded : Concluded messageId base)
    (found : base.outbox messageId = some row) (names : row.submissionId = some id) :
    ∃ submission, base.submission id = some submission ∧ submission.status ≠ .pending ∧
      submission.status ≠ .queued ∧ submission.status ≠ .judging := by
  obtain ⟨row', found', verdict⟩ := concluded
  cases found.symm.trans found'
  obtain ⟨submission, shown, settled⟩ := verdict id names
  refine ⟨submission, shown, conclusive.status id submission shown, ?_⟩
  simpa [waiting] using settled

variable {entry : Tables}

theorem Conclusive.status_committed (admitted : (workload codec).admits entry call = true)
    (committed : Committed codec snapshot base after call) (id : UInt64) (submission : Submission)
    (found : after.submission id = some submission) : submission.status ≠ .pending := by
  have old : base.submission id = some submission → submission.status ≠ .pending :=
    conclusive.status id submission
  cases call with
  | create call =>
    obtain ⟨id', payload, _, _, _, rfl⟩ := committed
    by_cases mine : id = id'
    · subst mine
      obtain rfl : call.submission = submission := by simpa using found
      simp [CreateCall.submission]
    · exact old (by simpa [mine] using found)
  | createCustom =>
    obtain ⟨_, _, _, _, _, rfl⟩ := committed
    exact old (by simpa using found)
  | claim =>
    rcases committed.submission id with same | ⟨_, _, _, _, _, _, _, _, _, written⟩
    · exact old (same.symm.trans found)
    · cases written.symm.trans found
      simp [terminalSubmission]
  | settle =>
    obtain ⟨_, _, _, _, rfl⟩ := committed
    exact old (by simpa using found)
  | apply call =>
    rcases committed with ⟨id', applies⟩ | ⟨_, _, _, rfl⟩ | rfl
    · obtain ⟨shown, json, line, _, _, _, _, _, _, _, rfl⟩ := applies
      by_cases mine : id = id'
      · subst mine
        obtain rfl : appliedSubmission shown call.result json call.now = submission := by
          simpa using found
        have final := (admitted_apply admitted).1
        simp only [finalStatus, decide_eq_true_eq] at final
        exact final.2.1
      · exact old (by simpa [mine] using found)
    · exact old (by simpa using found)
    · exact old found

theorem Conclusive.receipt_committed (admitted : (workload codec).admits entry call = true)
    (since : Later entry base) (later : Later base after) (consistent : Consistent codec after)
    (committed : Committed codec snapshot base after call) (messageId : Bytes)
    (present : (after.receipt messageId).isSome = true) : Concluded messageId after := by
  have old : (base.receipt messageId).isSome = true → Concluded messageId after :=
    fun present' => (conclusive.receipt messageId present').later later
  cases call with
  | create | createCustom =>
    obtain ⟨_, _, _, _, _, rfl⟩ := committed
    exact old (by simpa using present)
  | claim => exact old (by rwa [← committed.receipt messageId])
  | settle =>
    obtain ⟨_, _, _, _, rfl⟩ := committed
    exact old (by simpa using present)
  | apply call =>
    obtain ⟨payload, task, before, target⟩ := carries_of_admitted admitted
    have carries := before.later (since.trans later)
    have final := (admitted_apply admitted).1
    by_cases mine : messageId = call.request.messageId
    case neg =>
      rcases committed with ⟨_, applies⟩ | ⟨_, _, _, rfl⟩ | rfl
      · obtain ⟨_, _, _, _, _, _, _, _, _, _, rfl⟩ := applies
        exact old (by simpa [mine] using present)
      · exact old (by simpa [mine] using present)
      · exact old present
    subst mine
    rcases committed with ⟨id, applies⟩ | ⟨id, custom, _, rfl⟩ | rfl
    · obtain ⟨shown, json, line, isTarget, _, _, _, _, _, _, rfl⟩ := applies
      exact carries.concluded_of_submission consistent (target.trans isTarget) (by simp; rfl)
        (not_waiting_of_final final)
    · exact carries.concluded_of_custom consistent (target.trans custom)
    · exact old present

theorem Conclusive.committed (consistent : Consistent codec snapshot)
    (admitted : (workload codec).admits entry call = true) (since : Later entry base)
    (before : Later snapshot base) (committed : Committed codec snapshot base after call) :
    Conclusive codec after := by
  have consistent' := conclusive.consistent.committed consistent admitted since before committed
  have later := later_of_committed admitted before committed
  exact ⟨consistent', conclusive.receipt_committed admitted since later consistent' committed,
    conclusive.status_committed admitted committed⟩

end

def Concludes (db : Tables) : Call → Answer → Prop
  | .apply call, .applied .conflict => Concluded call.request.messageId db
  | .apply _, .applied .notFound => False
  | _, _ => True

theorem Concludes.later {answer : Answer} (concludes : Concludes base call answer)
    (later : Later base after) : Concludes after call answer := by
  unfold Concludes at concludes ⊢
  split at concludes
  · exact Concluded.later concludes later
  · exact concludes
  · trivial

def Between (codec : Codec) (entry base snapshot : Tables) : Prop :=
  Conclusive codec snapshot ∧ Later entry snapshot ∧ Later snapshot base

abbrev concludingEnds (codec : Codec) (call : (workload codec).Call) (base : Tables) :
    Ends Row Answer :=
  Outline.answerEnds (fun _ _ _ => True) (Conclusive codec) (fun _ => Later)
    (fun call answer db => Concludes db call answer) call base

section Answers

variable {entry : Tables}

theorem Conclusive.ends {call : Call} (conclusive : Conclusive codec base)
    (admitted : (workload codec).admits entry call = true)
    (between : Between codec entry base snapshot)
    (committed : Committed codec snapshot base after call) :
    Conclusive codec after ∧ Later base after :=
  ⟨conclusive.committed between.1.consistent admitted (between.2.1.trans between.2.2) between.2.2
    committed, later_of_committed admitted between.2.2 committed⟩

theorem Between.compares {call : ResultCall} {receipt : JudgeResultReceipt}
    (between : Between codec entry base snapshot)
    (known : snapshot.receipt call.request.messageId = some receipt) :
    Concludes base (.apply call) (.applied (compareReceipt receipt call.request)) := by
  have concluded : Concluded call.request.messageId base :=
    (between.1.receipt _ (Option.isSome_iff_exists.mpr ⟨receipt, known⟩)).later between.2.2
  unfold compareReceipt
  split
  · trivial
  · exact concluded

theorem concludes_apply {call : ResultCall} (conclusive : Conclusive codec base)
    (admitted : (workload codec).admits entry (.apply call) = true) :
    (applyJudgeResult codec call).Every fun body =>
      wlp (Between codec entry base) base (concludingEnds codec (.apply call) base) body {} := by
  have persists : ∀ {snapshot : Tables} {progress : Progress Row},
      Between codec entry base snapshot →
      Committed codec snapshot base (overlay progress.writes base) (.apply call) →
      (concludingEnds codec (.apply call) base).commits progress (.applied .persisted) := by
    intro snapshot progress between committed _
    have kept := conclusive.ends admitted between committed
    exact ⟨kept.1, kept.2, trivial⟩
  refine ⟨?_, every_recoverApply (fun _ => trivial) ?_⟩
  case refine_2 =>
    intro snapshot receipt between known _
    exact ⟨conclusive, .refl base, between.compares known⟩
  obtain ⟨payload, task, carries, sameTarget⟩ := carries_of_admitted admitted
  cases target : call.request.target with
  | none =>
    obtain ⟨row, _, valid⟩ := (Option.any_eq_true _ _).mp admitted
    rw [Bool.and_eq_true] at valid
    obtain ⟨task', validated⟩ := Option.isSome_iff_exists.mp valid.1
    exact absurd target (validateTaskPayload_eq_some validated).2.2.1
  | some goal =>
    cases goal with
    | submission id =>
      apply wlp_applyBody target
      case compares => exact fun snapshot receipt _ between known => between.compares known
      case missing =>
        -- the outbox row of the message names the submission in every snapshot
        intro snapshot _ between _ gone
        obtain ⟨row, found, rfl, parsed, sameMessage⟩ := carries.later between.2.1
        have present := between.1.consistent.existing _ row id found
          ⟨task, parsed, sameMessage, sameTarget.trans target⟩
        rw [gone] at present
        cases present
      case fails => exact fun _ _ => trivial
      case gone => exact fun _ => trivial
      case duplicate => exact fun _ => trivial
      case commits =>
        exact fun snapshot progress between _ applies =>
          persists between (.inl ⟨id, applies⟩)
    | custom id =>
      apply wlp_applyBody_custom target
      case compares => exact fun snapshot receipt _ between known => between.compares known
      case duplicate => exact fun _ => trivial
      case commits =>
        exact fun snapshot progress between _ absent written =>
          persists between (.inr (.inl ⟨id, target, absent, written⟩))

theorem concludes_procedure {call : Call} (conclusive : Conclusive codec base)
    (admitted : (workload codec).admits entry call = true) (since : Later entry base)
    (silent : ∀ db answer, Concludes db call answer) :
    ((workload codec).procedure call).Every fun body =>
      wlp (Between codec entry base) base (concludingEnds codec call base) body {} := by
  refine (wlp_procedure codec (Between codec entry base) ⟨conclusive, since, .refl base⟩ call).imp
    fun body holds => ?_
  refine wlp_mono (fun _ past => past) ⟨?_, fun _ => silent _ _, fun _ => trivial⟩ holds
  rintro progress answer ⟨snapshot, between, _, committed⟩ _
  have kept := conclusive.ends admitted between committed
  exact ⟨kept.1, kept.2, silent _ _⟩

end Answers

def conclusionOutline (codec : Codec) : Outline (workload codec) fun _ _ _ => True :=
  .ofAnswers (Conclusive codec) Later (fun _ => Later)
    (fun call answer db => Concludes db call answer) .refl .trans id .later
    fun {call _ base} admitted _ conclusive since => by
      cases call with
      | apply call =>
        refine ⟨concludes_apply conclusive admitted, ?_⟩
        rw [show ((workload codec).procedure (.apply call)).last = _ from
          last_applyJudgeResult codec call]
        trivial
      | _ => exact ⟨concludes_procedure conclusive admitted since fun _ _ => trivial, trivial⟩

end OnlineJudge.Store
