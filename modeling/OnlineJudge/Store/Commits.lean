import Mathlib
import OnlineJudge.Store.Transactions

/-!
# What the methods commit

The tables after a commit in terms of the tables before and of the snapshot that plain reads saw.
-/

namespace OnlineJudge.Store

open Delivery RepeatableRead Progress Tables

/-! ## Specifications -/

/-- The row of the message becomes `DEAD`.  Its submission, unless the snapshot shows none, does not
wait in the snapshot or not any more. -/
def GivesUp (snapshot base after : Tables) (messageId : Bytes) (row : JudgeOutbox) : Prop :=
  after.outbox messageId = some row.terminal ∧
    ∀ id, row.submissionId = some id →
      snapshot.outbox messageId = base.outbox messageId ∧
        (snapshot.submission id = none ∨
          (∃ submission, snapshot.submission id = some submission ∧
            waiting submission.status = false) ∨
          ∃ submission, after.submission id = some submission ∧ waiting submission.status = false)

/-- What `ClaimPendingOutbox` commits. -/
structure Claims (call : ClaimCall) (snapshot base after : Tables) : Prop where
  outbox : ∀ messageId, after.outbox messageId = base.outbox messageId ∨
    ∃ row, base.outbox messageId = some row ∧ row.claimable call.now = true ∧
      (row.givenUp call.now = false ∧ after.outbox messageId = some (call.claimed row) ∨
        row.givenUp call.now = true ∧ GivesUp snapshot base after messageId row)
  submission : ∀ id, after.submission id = base.submission id ∨
    ∃ messageId row submission reason time, base.outbox messageId = some row ∧
      row.submissionId = some id ∧ snapshot.submission id = some submission ∧
      waiting submission.status = true ∧
      after.submission id = some (terminalSubmission submission reason time)
  receipt : ∀ messageId, after.receipt messageId = base.receipt messageId

def Settles (call : SettleCall) (snapshot base after : Tables) : Prop :=
  ∃ row, snapshot.outbox call.messageId = some row ∧ row.heldBy call.owner = true ∧
    (base.outbox call.messageId).isSome = true ∧
    after = base.setOutbox call.messageId
      (row.settled call.published call.retryDelaySeconds call.now)

variable (codec : Codec)

def Creates (call : CreateCall) (base after : Tables) : Prop :=
  ∃ id payload, codec.serializeTask (call.namedTask id) = some payload ∧
    base.submission id = none ∧ base.outbox call.task.messageId = none ∧
    after = (base.setSubmission id call.submission).setOutbox call.task.messageId
      (call.outbox id payload)

def CreatesCustom (task : JudgeTaskMessage) (now : DateTime) (base after : Tables) : Prop :=
  ∃ id payload, task.target = some (.custom id) ∧ codec.serializeTask task = some payload ∧
    base.outbox task.messageId = none ∧
    after = base.setOutbox task.messageId
      { customTaskId := some id, payload := payload, createdAt := now }

/-- What `ApplyJudgeResult` commits for a submission. -/
def AppliesTo (call : ResultCall) (id : UInt64) (snapshot base after : Tables) : Prop :=
  ∃ submission json line, call.request.target = some (.submission id) ∧
    snapshot.receipt call.request.messageId = none ∧
    snapshot.submission id = some submission ∧
    codec.messageToJson call.result = some json ∧
    (base.submission id).isSome = true ∧ base.history line = none ∧
    base.receipt call.request.messageId = none ∧
    after = ((base.setSubmission id
      (appliedSubmission submission call.result json call.now)).setHistory line
      (historyLine submission call.result json call.now)).setReceipt call.request.messageId
        (newReceipt call.request call.customExpiresAt (.submission id))

/-- What `ApplyJudgeResult` commits.  The last case is that of `GetResultReceipt`. -/
def Applies (call : ResultCall) (snapshot base after : Tables) : Prop :=
  (∃ id, AppliesTo codec call id snapshot base after) ∨
    (∃ id, call.request.target = some (.custom id) ∧
      base.receipt call.request.messageId = none ∧
      after = base.setReceipt call.request.messageId
        (newReceipt call.request call.customExpiresAt (.custom id))) ∨
    after = base

def Committed (snapshot base after : Tables) : Call → Prop
  | .create call => Creates codec call base after
  | .createCustom task now => CreatesCustom codec task now base after
  | .claim call => Claims call snapshot base after
  | .settle call => Settles call snapshot base after
  | .apply call => Applies codec call snapshot base after

/-- The requirement that every commit is one of these, from a snapshot in `Past`.  A
transaction without plain reads could as well have seen the present. -/
def specifiedEnds (Past : Tables → Prop) (base : Tables) (call : Call) : Ends Row Answer where
  commits progress _ := ∃ snapshot, Past snapshot ∧
    (progress.snapshot = some snapshot ∨ progress.snapshot = none ∧ snapshot = base) ∧
    Committed codec snapshot base (overlay progress.writes base) call
  returns _ _ := True
  raises _ := True

variable {codec : Codec} {Past : Tables → Prop} {base : Tables}

/-! ## Creating -/

theorem wlp_create (present : Past base) (call : CreateCall) :
    (createSubmissionWithOutbox codec call).Every fun body =>
      wlp Past base (specifiedEnds codec Past base (.create call)) body {} := by
  unfold createSubmissionWithOutbox
  split
  · trivial
  refine ⟨fun n absent => ?_, trivial⟩
  beta_reduce
  split
  · trivial
  case h_2 payload serialized =>
    refine ⟨fun absent' => ?_, fun _ => trivial⟩
    refine ⟨base, present, .inr ⟨rfl, rfl⟩, UInt64.ofNat n, payload, serialized, absent, ?_, ?_⟩
    · rw [overlay_write] at absent'
      simpa [outbox] using absent'
    · rw [overlay_write, overlay_write]
      rfl

theorem wlp_createCustom (present : Past base) (task : JudgeTaskMessage) (now : DateTime) :
    (createCustomOutbox codec task now).Every fun body =>
      wlp Past base (specifiedEnds codec Past base (.createCustom task now)) body {} := by
  unfold createCustomOutbox
  split
  case h_2 => trivial
  case h_1 id target =>
    split
    · trivial
    split
    · trivial
    case h_2 payload serialized =>
      refine ⟨⟨fun absent => ?_, fun _ => trivial⟩, trivial⟩
      refine ⟨base, present, .inr ⟨rfl, rfl⟩, id, payload, target, serialized, absent, ?_⟩
      rw [overlay_write]
      rfl

/-! ## Settling -/

variable {snapshot : Tables} {id : UInt64}

theorem past_of_sees (sees : Sees Past base {} snapshot) : Past snapshot := by
  rcases sees with taken | first
  · cases taken
  · exact first.2.1

theorem wlp_settle (call : SettleCall) :
    (updateOutbox call).Every fun body =>
      wlp Past base (specifiedEnds codec Past base (.settle call)) body {} := by
  unfold updateOutbox
  split
  · trivial
  refine ⟨fun snapshot sees => ?_, trivial⟩
  beta_reduce
  split
  · trivial
  case h_2 row found =>
    split
    · refine ⟨fun exists' => ?_, fun _ => trivial⟩
      rename_i held
      refine ⟨snapshot, past_of_sees sees, .inl rfl, row, found, held, exists', ?_⟩
      rw [overlay_write]
      rfl
    · trivial

/-! ## Applying -/

variable {ends : Ends Row Answer}

section ToSubmission

variable {call : ResultCall} (target : call.request.target = some (.submission id))
    (fails : codec.messageToJson call.result = none → ∀ progress,
      ends.returns progress (.applied .retryableFailure))
    (gone : base.submission id = none → ends.raises true)
    (duplicate : (base.receipt call.request.messageId).isSome = true → ends.raises false)
include target fails gone duplicate

theorem wlp_applyToSubmission {submission : Submission}
    (unknown : snapshot.receipt call.request.messageId = none)
    (found : snapshot.submission id = some submission)
    (commits : ∀ progress, progress.snapshot = some snapshot →
      AppliesTo codec call id snapshot base (overlay progress.writes base) →
      ends.commits progress (.applied .persisted)) :
    wlp Past base ends (applyToSubmission codec call id submission)
      { snapshot := some snapshot } := by
  unfold applyToSubmission
  split
  case h_1 failed => exact fails failed _
  case h_2 json converted =>
    refine ⟨fun exists' => ?_, gone⟩
    intro line free
    refine ⟨fun absent => commits _ rfl ?_, fun present => duplicate ?_⟩
    · rw [overlay_write, overlay_write] at absent
      rw [overlay_write] at free
      refine ⟨submission, json, line, target, unknown, found, converted, exists', ?_, ?_, ?_⟩
      · simpa [history] using free
      · simpa [receipt] using absent
      · rw [overlay_write, overlay_write, overlay_write]
        rfl
    · rw [overlay_write, overlay_write] at present
      simpa [receipt] using present

theorem wlp_applyBody (compares : ∀ (snapshot : Tables) receipt progress, Past snapshot →
      snapshot.receipt call.request.messageId = some receipt →
      ends.returns progress (.applied (compareReceipt receipt call.request)))
    (missing : ∀ (snapshot : Tables) progress, Past snapshot →
      snapshot.receipt call.request.messageId = none → snapshot.submission id = none →
      ends.returns progress (.applied .notFound))
    (commits : ∀ snapshot progress, Past snapshot → progress.snapshot = some snapshot →
      AppliesTo codec call id snapshot base (overlay progress.writes base) →
      ends.commits progress (.applied .persisted)) :
    wlp Past base ends (applyBody codec call) {} := by
  intro snapshot sees
  have past := past_of_sees sees
  beta_reduce
  split
  case h_1 receipt known => exact compares snapshot receipt _ past known
  case h_2 unknown =>
    rw [target]
    intro snapshot' sees'
    rcases sees' with same | ⟨fresh, _⟩
    case inr => cases fresh
    cases same
    beta_reduce
    split
    case h_1 absent => exact missing snapshot _ past unknown absent
    case h_2 submission found =>
      exact wlp_applyToSubmission target fails gone duplicate unknown found
        fun progress taken => commits snapshot progress past taken

end ToSubmission

theorem wlp_applyBody_custom {call : ResultCall} {id : Bytes}
    (target : call.request.target = some (.custom id))
    (compares : ∀ (snapshot : Tables) receipt progress, Past snapshot →
      snapshot.receipt call.request.messageId = some receipt →
      ends.returns progress (.applied (compareReceipt receipt call.request)))
    (duplicate : (base.receipt call.request.messageId).isSome = true → ends.raises false)
    (commits : ∀ snapshot progress, Past snapshot → progress.snapshot = some snapshot →
      base.receipt call.request.messageId = none →
      overlay progress.writes base = base.setReceipt call.request.messageId
        (newReceipt call.request call.customExpiresAt (.custom id)) →
      ends.commits progress (.applied .persisted)) :
    wlp Past base ends (applyBody codec call) {} := by
  intro snapshot sees
  have past := past_of_sees sees
  beta_reduce
  split
  case h_1 receipt known => exact compares snapshot receipt _ past known
  case h_2 unknown =>
    rw [target]
    refine ⟨fun absent => commits snapshot _ past rfl absent ?_, duplicate⟩
    rw [overlay_write]
    rfl

theorem every_recoverApply {request : UpdateJudgeResultRequest}
    (unknown : ∀ progress, ends.returns progress (.applied .retryableFailure))
    (compares : ∀ (snapshot : Tables) receipt, Past snapshot →
      snapshot.receipt request.messageId = some receipt →
      ends.commits { snapshot := some snapshot } (.applied (compareReceipt receipt request))) :
    (recoverApply request).Every fun body => wlp Past base ends body {} := by
  unfold recoverApply
  split
  · trivial
  refine ⟨fun snapshot sees => ?_, trivial⟩
  beta_reduce
  split
  · exact unknown _
  case h_2 receipt known => exact compares snapshot receipt (past_of_sees sees) known

theorem last_applyJudgeResult (codec : Codec) (call : ResultCall) :
    (applyJudgeResult codec call).last = .applied .retryableFailure := by
  rw [applyJudgeResult, Procedure.last, recoverApply]
  split <;> rfl

theorem wlp_apply (call : ResultCall) :
    (applyJudgeResult codec call).Every fun body =>
      wlp Past base (specifiedEnds codec Past base (.apply call)) body {} := by
  refine ⟨?_, every_recoverApply (fun _ => trivial) fun snapshot receipt past _ =>
    ⟨snapshot, past, .inl rfl, .inr (.inr rfl)⟩⟩
  cases target : call.request.target with
  | none =>
    intro snapshot sees
    beta_reduce
    rw [target]
    split <;> trivial
  | some goal =>
    cases goal with
    | submission id =>
      exact wlp_applyBody target (fun _ _ => trivial) (fun _ => trivial) (fun _ => trivial)
        (fun _ _ _ _ _ => trivial) (fun _ _ _ _ _ => trivial)
        fun snapshot progress past taken applies =>
          ⟨snapshot, past, .inl taken, .inl ⟨id, applies⟩⟩
    | custom id =>
      exact wlp_applyBody_custom target (fun _ _ _ _ _ => trivial) (fun _ => trivial)
        fun snapshot progress past taken absent written =>
          ⟨snapshot, past, .inl taken, .inr (.inl ⟨id, target, absent, written⟩)⟩

/-! ## Claiming -/

section Claiming

variable {call : ClaimCall} {keys : List Key} {progress : Progress Row}

def Noticed (progress : Progress Row) (id : UInt64) : Prop :=
  ∃ snapshot : Tables, progress.snapshot = some snapshot ∧
    (snapshot.submission id = none ∨
      (∃ submission, snapshot.submission id = some submission ∧
        waiting submission.status = false) ∨
      (progress.writes (.submission id)).isSome = true)

/-- `keys` are the rows of the query, all locked before the first plain read; `pending` is a message
that was given up and whose submission is still to be looked at. -/
structure ClaimProgress (Past : Tables → Prop) (base : Tables) (call : ClaimCall)
    (keys : List Key) (pending : Option Bytes) (progress : Progress Row) : Prop where
  locked : ∀ k ∈ keys, k ∈ progress.locked
  snapshot : ∀ snapshot, progress.snapshot = some snapshot →
    Past snapshot ∧ ∀ k ∈ keys, snapshot k = base k
  outbox : ∀ messageId row', progress.writes (.outbox messageId) = some row' →
    ∃ row, base.outbox messageId = some row ∧ row.claimable call.now = true ∧
      (row.givenUp call.now = false ∧ row' = call.claimed row ∨
        row.givenUp call.now = true ∧ row' = row.terminal ∧ Key.outbox messageId ∈ keys ∧
          ∀ id, row.submissionId = some id → pending = some messageId ∨ Noticed progress id)
  submission : ∀ id submission', progress.writes (.submission id) = some submission' →
    ∃ messageId row, ∃ snapshot : Tables, ∃ submission reason time,
      base.outbox messageId = some row ∧ row.submissionId = some id ∧
      progress.snapshot = some snapshot ∧ snapshot.submission id = some submission ∧
      waiting submission.status = true ∧
      submission' = terminalSubmission submission reason time
  receipt : ∀ messageId, progress.writes (.receipt messageId) = none

variable {id : UInt64} {snapshot : Tables}

theorem Noticed.mono {progress' : Progress Row} (noticed : Noticed progress id)
    (snapshot : ∀ snapshot, progress.snapshot = some snapshot →
      progress'.snapshot = some snapshot)
    (written : (progress.writes (.submission id)).isSome = true →
      (progress'.writes (.submission id)).isSome = true) : Noticed progress' id := by
  obtain ⟨seen, taken, state⟩ := noticed
  exact ⟨seen, snapshot seen taken, state.imp_right (.imp_right written)⟩

variable {row : JudgeOutbox} {messageId : Bytes} {pending : Option Bytes}

theorem ClaimProgress.writeOutbox {row' : JudgeOutbox}
    (made : ClaimProgress Past base call keys none progress)
    (found : base.outbox messageId = some row) (claimable : row.claimable call.now = true)
    (kind : row.givenUp call.now = false ∧ row' = call.claimed row ∨
      row.givenUp call.now = true ∧ row' = row.terminal ∧ Key.outbox messageId ∈ keys ∧
        ∀ id, row.submissionId = some id → pending = some messageId) :
    ClaimProgress Past base call keys pending (progress.write (.outbox messageId) row') where
  locked k mem := List.mem_cons_of_mem _ (made.locked k mem)
  snapshot := made.snapshot
  outbox messageId' row'' written := by
    by_cases same : messageId' = messageId
    · subst same
      rw [write_self] at written
      cases written
      refine ⟨row, found, claimable, kind.imp_right ?_⟩
      rintro ⟨over', terminal, mem, names⟩
      exact ⟨over', terminal, mem, fun id is => .inl (names id is)⟩
    · rw [write_of_ne _ _ (by simpa using same)] at written
      obtain ⟨old, found', claimable', kind'⟩ := made.outbox _ _ written
      refine ⟨old, found', claimable', kind'.imp_right ?_⟩
      rintro ⟨over', terminal, mem, names⟩
      refine ⟨over', terminal, mem, fun id is => .inr ?_⟩
      have noticed := (names id is).resolve_left fun never => by cases never
      refine noticed.mono (fun _ taken => taken) fun written => ?_
      rw [write_of_ne _ _ (by simp)]
      exact written
  submission id submission' written := by
    rw [write_of_ne _ _ (by simp)] at written
    exact made.submission id submission' written
  receipt messageId' := by
    rw [write_of_ne _ _ (by simp)]
    exact made.receipt messageId'

theorem ClaimProgress.see (made : ClaimProgress Past base call keys pending progress)
    (sees : Sees Past base progress snapshot) :
    ClaimProgress Past base call keys pending { progress with snapshot := some snapshot } := by
  have same : ∀ snapshot', progress.snapshot = some snapshot' → some snapshot = some snapshot' := by
    intro snapshot' taken
    rcases sees with taken' | ⟨none, _⟩
    · rw [← taken', ← taken]
    · rw [none] at taken
      cases taken
  refine ⟨made.locked, fun snapshot' taken => ?_, fun messageId row' written => ?_,
    fun id submission' written => ?_, made.receipt⟩
  · cases taken
    rcases sees with taken' | ⟨_, past, agrees⟩
    · exact made.snapshot _ taken'
    · exact ⟨past, fun k mem => agrees k (made.locked k mem)⟩
  · obtain ⟨row, found, claimable, kind⟩ := made.outbox _ _ written
    refine ⟨row, found, claimable, kind.imp_right ?_⟩
    rintro ⟨over', terminal, mem, names⟩
    exact ⟨over', terminal, mem, fun id is =>
      (names id is).imp_right fun noticed => noticed.mono same fun written => written⟩
  · obtain ⟨messageId, row, snapshot', submission, reason, time, found, names, taken, rest⟩ :=
      made.submission _ _ written
    exact ⟨messageId, row, snapshot', submission, reason, time, found, names, same _ taken, rest⟩

theorem ClaimProgress.resolve (made : ClaimProgress Past base call keys (some messageId) progress)
    (found : base.outbox messageId = some row)
    (noticed : ∀ id, row.submissionId = some id → Noticed progress id) :
    ClaimProgress Past base call keys none progress := by
  refine ⟨made.locked, made.snapshot, fun messageId' row' written => ?_, made.submission,
    made.receipt⟩
  obtain ⟨row'', found', claimable, kind⟩ := made.outbox _ _ written
  refine ⟨row'', found', claimable, kind.imp_right ?_⟩
  rintro ⟨over', terminal, mem, names⟩
  refine ⟨over', terminal, mem, fun id is => .inr ?_⟩
  rcases names id is with pending | before
  · cases pending
    cases found.symm.trans found'
    exact noticed id is
  · exact before

theorem ClaimProgress.writeSubmission {submission : Submission}
    (made : ClaimProgress Past base call keys pending progress)
    (taken : progress.snapshot = some snapshot) (found : base.outbox messageId = some row)
    (names : row.submissionId = some id) (shown : snapshot.submission id = some submission)
    (waits : waiting submission.status = true) (reason : String) (time : DateTime) :
    ClaimProgress Past base call keys pending
      (progress.write (.submission id) (terminalSubmission submission reason time)) where
  locked k mem := List.mem_cons_of_mem _ (made.locked k mem)
  snapshot := made.snapshot
  outbox messageId' row' written := by
    rw [write_of_ne _ _ (by simp)] at written
    obtain ⟨row'', found', claimable, kind⟩ := made.outbox _ _ written
    refine ⟨row'', found', claimable, kind.imp_right ?_⟩
    rintro ⟨over', terminal, mem, names'⟩
    refine ⟨over', terminal, mem, fun id' is => (names' id' is).imp_right fun noticed => ?_⟩
    refine noticed.mono (fun _ same => same) fun written => ?_
    by_cases same : id' = id
    · subst same
      rw [write_self]
      rfl
    · rw [write_of_ne _ _ (by simpa using same)]
      exact written
  submission id' submission' written := by
    by_cases same : id' = id
    · subst same
      rw [write_self] at written
      cases written
      exact ⟨messageId, row, snapshot, submission, reason, time, found, names, taken, shown,
        waits, rfl⟩
    · rw [write_of_ne _ _ (by simpa using same)] at written
      exact made.submission id' submission' written
  receipt messageId' := by
    rw [write_of_ne _ _ (by simp)]
    exact made.receipt messageId'

theorem ClaimProgress.claims (made : ClaimProgress Past base call keys none progress)
    (present : Past base) :
    ∃ snapshot, Past snapshot ∧
      (progress.snapshot = some snapshot ∨ progress.snapshot = none ∧ snapshot = base) ∧
      Claims call snapshot base (overlay progress.writes base) := by
  -- without a plain read there is no submission to write
  obtain ⟨snapshot, past, taken, agrees⟩ : ∃ snapshot, Past snapshot ∧
      (progress.snapshot = some snapshot ∨ progress.snapshot = none ∧ snapshot = base) ∧
      ∀ k ∈ keys, snapshot k = base k := by
    cases taken : progress.snapshot with
    | none => exact ⟨base, present, .inr ⟨rfl, rfl⟩, fun _ _ => rfl⟩
    | some snapshot =>
      exact ⟨snapshot, (made.snapshot _ taken).1, .inl rfl, (made.snapshot _ taken).2⟩
  have same : ∀ snapshot', progress.snapshot = some snapshot' → snapshot' = snapshot := by
    intro snapshot' taken'
    rcases taken with taken | ⟨none, _⟩
    · exact Option.some.inj (taken'.symm.trans taken)
    · rw [none] at taken'
      cases taken'
  refine ⟨snapshot, past, taken, ⟨fun messageId => ?_, fun id => ?_, fun messageId => ?_⟩⟩
  · cases written : progress.writes (.outbox messageId) with
    | none => exact .inl (by simp [Tables.outbox, overlay, written])
    | some row' =>
      obtain ⟨row, found, claimable, kind⟩ := made.outbox _ _ written
      have after : Tables.outbox (overlay progress.writes base) messageId = some row' := by
        simp [Tables.outbox, overlay, written]
      refine .inr ⟨row, found, claimable, kind.imp ?_ ?_⟩
      · rintro ⟨alive, rfl⟩
        exact ⟨alive, after⟩
      · rintro ⟨over', rfl, mem, names⟩
        refine ⟨over', after, fun id is => ⟨agrees _ mem, ?_⟩⟩
        have noticed := (names id is).resolve_left fun never => by cases never
        obtain ⟨snapshot', taken', state⟩ := noticed
        obtain rfl := same _ taken'
        refine state.imp_right (.imp_right fun wrote => ?_)
        obtain ⟨submission', wrote⟩ := Option.isSome_iff_exists.mp wrote
        obtain ⟨_, _, _, submission, reason, time, _, _, _, _, _, rfl⟩ :=
          made.submission _ _ wrote
        exact ⟨terminalSubmission submission reason time,
          by simp [Tables.submission, overlay, wrote], rfl⟩
  · cases written : progress.writes (.submission id) with
    | none => exact .inl (by simp [Tables.submission, overlay, written])
    | some =>
      obtain ⟨messageId, row, snapshot', submission, reason, time, found, names, taken', shown,
        waits, rfl⟩ := made.submission _ _ written
      obtain rfl := same _ taken'
      exact .inr ⟨messageId, row, submission, reason, time, found, names, shown, waits,
        by simp [Tables.submission, overlay, written]⟩
  · simp [Tables.receipt, overlay, made.receipt messageId]

theorem wlp_markOutboxTerminal {ends : Ends Row Answer} {next : TableTransaction}
    (made : ClaimProgress Past base call keys none progress)
    (found : base.outbox messageId = some row) (claimable : row.claimable call.now = true)
    (over' : row.givenUp call.now = true) (mem : Key.outbox messageId ∈ keys)
    (raises : ends.raises true)
    (goesOn : ∀ progress', ClaimProgress Past base call keys none progress' →
      wlp Past base ends next progress') :
    wlp Past base ends (markOutboxTerminal call messageId row next) progress := by
  refine ⟨fun _ => ?_, fun _ => raises⟩
  cases names : row.submissionId with
  | none =>
    refine goesOn _ (made.writeOutbox found claimable (.inr ⟨over', rfl, mem, fun id is => ?_⟩))
    rw [names] at is
    cases is
  | some id =>
    have given : ClaimProgress Past base call keys (some messageId)
        (progress.write (.outbox messageId) row.terminal) :=
      made.writeOutbox found claimable (.inr ⟨over', rfl, mem, fun _ _ => rfl⟩)
    intro snapshot sees
    have seen := given.see sees
    have only : ∀ id', row.submissionId = some id' → id' = id :=
      fun id' is => Option.some.inj (is.symm.trans names)
    -- the read sees the transaction's own write, if there is one, and else the snapshot
    cases wrote : (progress.write (.outbox messageId) row.terminal).writes (.submission id) with
    | some =>
      obtain ⟨_, _, _, submission, reason, time, _, _, _, _, _, rfl⟩ :=
        given.submission _ _ wrote
      have shows : overlay (progress.write (.outbox messageId) row.terminal).writes snapshot
          (.submission id) = some (terminalSubmission submission reason time) := by
        simp [overlay, wrote]
      rw [shows]
      refine goesOn _ (seen.resolve found fun id' is => ?_)
      obtain rfl := only id' is
      exact ⟨snapshot, rfl, .inr (.inr (by simp only [wrote, Option.isSome_some]))⟩
    | none =>
      have shows : overlay (progress.write (.outbox messageId) row.terminal).writes snapshot
          (.submission id) = submission snapshot id := by
        simp [overlay, wrote, submission]
      rw [shows]
      cases shown : submission snapshot id with
      | none =>
        refine goesOn _ (seen.resolve found fun id' is => ?_)
        obtain rfl := only id' is
        exact ⟨snapshot, rfl, .inl shown⟩
      | some submission =>
        dsimp only
        split
        case isTrue waits =>
          refine ⟨fun _ => goesOn _ ?_, fun _ => raises⟩
          refine (seen.writeSubmission rfl found names shown waits _ _).resolve found
            fun id' is => ?_
          obtain rfl := only id' is
          exact ⟨snapshot, rfl, .inr (.inr (by rw [write_self]; rfl))⟩
        case isFalse settled =>
          refine goesOn _ (seen.resolve found fun id' is => ?_)
          obtain rfl := only id' is
          exact ⟨snapshot, rfl, .inr (.inl ⟨submission, shown, Bool.eq_false_iff.mpr settled⟩)⟩

theorem wlp_claimLoop (present : Past base) (rows : List ((k : Key) × Row k))
    (queried : ∀ entry ∈ rows, entry.1 ∈ keys ∧ base entry.1 = some entry.2 ∧
      call.matching entry.1 entry.2 = true)
    (claimed : List (Bytes × JudgeOutbox))
    (made : ClaimProgress Past base call keys none progress) :
    wlp Past base (specifiedEnds codec Past base (.claim call)) (claimLoop call rows claimed)
      progress := by
  induction rows generalizing claimed progress with
  | nil => exact made.claims present
  | cons entry rows ih =>
    obtain ⟨⟨mem, found, matched⟩, later⟩ := List.forall_mem_cons.mp queried
    obtain ⟨key, row⟩ := entry
    cases key with
    | outbox messageId =>
      rw [claimLoop]
      split
      case isTrue over' =>
        exact wlp_markOutboxTerminal made found matched over' mem trivial
          fun progress' made' => ih later claimed made'
      case isFalse alive =>
        have made' : ClaimProgress Past base call keys none
            (progress.write (.outbox messageId) (call.claimed row)) :=
          made.writeOutbox found matched (.inl ⟨Bool.eq_false_iff.mpr alive, rfl⟩)
        refine ⟨fun _ => ?_, fun _ => trivial⟩
        split
        · exact made'.claims present
        · exact ih later _ made'
    | _ => cases matched

theorem claimProgress_begin (Past : Tables → Prop) (base : Tables) (call : ClaimCall)
    (keys : List Key) :
    ClaimProgress Past base call keys none { locked := keys ++ [] } where
  locked _ mem := List.mem_append_left _ mem
  snapshot _ taken := by cases taken
  outbox _ _ written := by cases written
  submission _ _ written := by cases written
  receipt _ := rfl

theorem wlp_claim (present : Past base) (call : ClaimCall) :
    (claimPendingOutbox call).Every fun body =>
      wlp Past base (specifiedEnds codec Past base (.claim call)) body {} := by
  unfold claimPendingOutbox
  split
  · trivial
  refine ⟨fun keys _ _ matched => ?_, trivial⟩
  refine wlp_claimLoop present _ (fun entry mem => ?_) [] (claimProgress_begin Past base call keys)
  obtain ⟨k, isKey, read⟩ := List.mem_filterMap.mp mem
  obtain ⟨row, found, rfl⟩ := Option.map_eq_some_iff.mp read
  rw [overlay_empty] at found
  have chosen := matched k isKey
  rw [overlay_empty, found] at chosen
  exact ⟨isKey, found, chosen⟩

end Claiming

theorem wlp_procedure (codec : Codec) (Past : Tables → Prop) (present : Past base) (call : Call) :
    ((workload codec).procedure call).Every fun body =>
      wlp Past base (specifiedEnds codec Past base call) body {} := by
  cases call with
  | create call => exact wlp_create present call
  | createCustom task now => exact wlp_createCustom present task now
  | claim call => exact wlp_claim present call
  | settle call => exact wlp_settle call
  | apply call => exact wlp_apply call

def ofCommitted (codec : Codec) (kind : Call → Key → Prop) (Inv : Tables → Prop)
    (Grows : Tables → Tables → Prop) (Step : Call → Tables → Tables → Prop)
    (grows_refl : ∀ db, Grows db db)
    (grows_trans : ∀ {db db' db''}, Grows db db' → Grows db' db'' → Grows db db'')
    (grows_of_step : ∀ {call db db'}, Step call db db' → Grows db db')
    (keeps : ∀ {call : Call} {entry snapshot base after : Tables},
      (workload codec).admits entry call = true → Inv snapshot → Inv base →
      Grows entry snapshot → Grows snapshot base → Committed codec snapshot base after call →
      (∀ k, kind call k → after k ≠ base k → snapshot k = base k) →
      Inv after ∧ Step call base after) : Outline (workload codec) (Unchanged kind) :=
  .ofCommits Inv Grows Step grows_refl grows_trans grows_of_step
    (by
      intro call entry base admitted _ inv grows
      refine (wlp_procedure codec
        (fun snapshot => Inv snapshot ∧ Grows entry snapshot ∧ Grows snapshot base)
        ⟨inv, grows, grows_refl base⟩ call).imp fun body holds => ?_
      refine wlp_mono (fun _ past => past) ⟨?_, fun _ => trivial, fun _ => trivial⟩ holds
      rintro progress result ⟨snapshot, ⟨inv', before, later⟩, taken, committed⟩ unchanged
      refine keeps admitted inv' inv before later committed fun k isKind changed => ?_
      rcases taken with taken | ⟨_, rfl⟩
      · refine unchanged k isKind (fun unwritten => changed ?_) snapshot taken
        simp [overlay, unwritten]
      · rfl)

end OnlineJudge.Store
