import OnlineJudge.Store.Commits

/-!
# The tables stay consistent

Some methods write a whole row back as an old snapshot showed it.  What survives every lost update:
`Later`, from one committed state to later ones, and `Consistent`, of every committed state.
-/

namespace OnlineJudge.Store

open Delivery RepeatableRead Option Tables

variable {codec : Codec} {snapshot base after : Tables}

/-! ## Later states -/

structure Later (db db' : Tables) : Prop where
  submission : ∀ id submission, db.submission id = some submission →
    ∃ submission', db'.submission id = some submission' ∧
      (waiting submission.status = false → waiting submission'.status = false)
  outbox : ∀ messageId row, db.outbox messageId = some row →
    ∃ row', db'.outbox messageId = some row' ∧ row.SameTask row'

theorem JudgeOutbox.SameTask.refl (row : JudgeOutbox) : row.SameTask row := ⟨rfl, rfl⟩

theorem JudgeOutbox.SameTask.trans {row row' row'' : JudgeOutbox} (first : row.SameTask row')
    (second : row'.SameTask row'') : row.SameTask row'' :=
  ⟨second.1.trans first.1, second.2.trans first.2⟩

theorem JudgeOutbox.SameTask.symm {row row' : JudgeOutbox} (same : row.SameTask row') :
    row'.SameTask row := ⟨same.1.symm, same.2.symm⟩

theorem Later.refl (db : Tables) : Later db db :=
  ⟨fun _ submission found => ⟨submission, found, id⟩,
    fun _ row found => ⟨row, found, .refl row⟩⟩

theorem Later.trans {db db' db'' : Tables} (first : Later db db') (second : Later db' db'') :
    Later db db'' := by
  refine ⟨fun id submission found => ?_, fun messageId row found => ?_⟩
  · obtain ⟨submission', found', kept⟩ := first.submission _ _ found
    obtain ⟨submission'', found'', kept'⟩ := second.submission _ _ found'
    exact ⟨submission'', found'', fun settled => kept' (kept settled)⟩
  · obtain ⟨row', found', same⟩ := first.outbox _ _ found
    obtain ⟨row'', found'', same'⟩ := second.outbox _ _ found'
    exact ⟨row'', found'', same.trans same'⟩

def HasVerdict (db : Tables) (id : UInt64) : Prop :=
  ∃ submission, db.submission id = some submission ∧ waiting submission.status = false

variable {id : UInt64}

theorem Later.hasVerdict {db db' : Tables} (later : Later db db')
    (verdict : HasVerdict db id) : HasVerdict db' id := by
  obtain ⟨submission, found, settled⟩ := verdict
  obtain ⟨submission', found', kept⟩ := later.submission _ _ found
  exact ⟨submission', found', kept settled⟩

structure NothingNew (db db' : Tables) : Prop where
  submission : ∀ id, (db'.submission id).isSome = true → (db.submission id).isSome = true
  outbox : ∀ messageId row', db'.outbox messageId = some row' →
    ∃ row, db.outbox messageId = some row ∧ row.SameTask row'

/-! ## Claiming and settling -/

theorem Claims.later {call : ClaimCall} (claims : Claims call snapshot base after) :
    Later base after := by
  refine ⟨fun id submission found => ?_, fun messageId row found => ?_⟩
  · rcases claims.submission id with same | ⟨_, _, shown, reason, time, _, _, _, _, written⟩
    · exact ⟨submission, same.trans found, fun settled => settled⟩
    · exact ⟨_, written, fun _ => rfl⟩
  · rcases claims.outbox messageId with same | ⟨row', found', _, kind⟩
    · exact ⟨row, same.trans found, .refl row⟩
    · cases found.symm.trans found'
      rcases kind with ⟨_, written⟩ | ⟨_, written, _⟩
      · exact ⟨_, written, rfl, rfl⟩
      · exact ⟨_, written, rfl, rfl⟩

theorem Claims.nothingNew {call : ClaimCall} (claims : Claims call snapshot base after)
    (existing : ∀ messageId row id, base.outbox messageId = some row →
      row.submissionId = some id → (base.submission id).isSome = true) : NothingNew base after := by
  refine ⟨fun id present => ?_, fun messageId row' found => ?_⟩
  · rcases claims.submission id with same | ⟨messageId, row, _, _, _, found, names, _⟩
    · rwa [same] at present
    · exact existing messageId row id found names
  · rcases claims.outbox messageId with same | ⟨row, found', _, kind⟩
    · exact ⟨row', same.symm.trans found, .refl row'⟩
    · refine ⟨row, found', ?_⟩
      rcases kind with ⟨_, written⟩ | ⟨_, written, _⟩
      · cases written.symm.trans found
        exact ⟨rfl, rfl⟩
      · cases written.symm.trans found
        exact ⟨rfl, rfl⟩

/-- `UpdateOutbox` writes the row of the snapshot, which is about the same task as the
committed row. -/
theorem Settles.sameTask {call : SettleCall} (settles : Settles call snapshot base after)
    (before : Later snapshot base) :
    ∃ row row', base.outbox call.messageId = some row ∧ row.SameTask row' ∧
      row'.status ≠ .dead ∧ after = base.setOutbox call.messageId row' := by
  obtain ⟨shown, seen, _, _, rfl⟩ := settles
  obtain ⟨row, found, same⟩ := before.outbox _ _ seen
  refine ⟨row, _, found, same.symm.trans ?_, ?_, rfl⟩
  · cases call.published <;> exact ⟨rfl, rfl⟩
  · cases call.published <;> simp [JudgeOutbox.settled]

variable {messageId payload : Bytes} {call : CreateCall} {entry initial : Tables}

theorem later_setOutbox {row row' : JudgeOutbox} (found : base.outbox messageId = some row)
    (same : row.SameTask row') :
    Later base (base.setOutbox messageId row') := by
  refine ⟨fun _ submission found' => ⟨submission, by simpa using found', id⟩, ?_⟩
  intro messageId' other found'
  by_cases mine : messageId' = messageId
  · subst mine
    cases found.symm.trans found'
    exact ⟨row', by simp, same⟩
  · exact ⟨other, by simp [mine, found'], .refl other⟩

theorem nothingNew_setOutbox {row row' : JudgeOutbox} (found : base.outbox messageId = some row)
    (same : row.SameTask row') :
    NothingNew base (base.setOutbox messageId row') := by
  refine ⟨fun id present => by simpa using present, fun messageId' other found' => ?_⟩
  rcases eq_or_of_setOutbox found' with ⟨rfl, rfl⟩ | before
  · exact ⟨row, found, same⟩
  · exact ⟨other, before, .refl other⟩

/-! ## Creating and applying -/

theorem Creates.later (creates : Creates codec call base after) : Later base after := by
  obtain ⟨id, payload, _, fresh, unknown, rfl⟩ := creates
  refine ⟨fun id' submission found => ?_, fun messageId row found => ?_⟩
  · have other : id' ≠ id := ne_of_apply_ne base.submission (by simp [found, fresh])
    exact ⟨submission, by simp [other, found], fun settled => settled⟩
  · have other : messageId ≠ call.task.messageId :=
      ne_of_apply_ne base.outbox (by simp [found, unknown])
    exact ⟨row, by simp [other, found], .refl row⟩

variable {task : JudgeTaskMessage}

theorem CreatesCustom.later {now : DateTime}
    (creates : CreatesCustom codec task now base after) : Later base after := by
  obtain ⟨id, payload, _, _, unknown, rfl⟩ := creates
  refine ⟨fun _ submission found => ⟨submission, by simpa using found, fun settled => settled⟩,
    fun messageId row found => ?_⟩
  have other : messageId ≠ task.messageId :=
    ne_of_apply_ne base.outbox (by simp [found, unknown])
  exact ⟨row, by simp [other, found], .refl row⟩

theorem AppliesTo.later {call : ResultCall} (applies : AppliesTo codec call id snapshot base after)
    (final : finalStatus call.result.status = true) : Later base after := by
  obtain ⟨submission, json, line, _, _, _, _, _, _, _, rfl⟩ := applies
  refine ⟨fun id' submission' found => ?_, fun messageId row found => ?_⟩
  · by_cases mine : id' = id
    · subst mine
      exact ⟨appliedSubmission submission call.result json call.now, by simp,
        fun _ => not_waiting_of_final final⟩
    · exact ⟨submission', by simp [mine, found], fun settled => settled⟩
  · exact ⟨row, by simpa using found, .refl row⟩

theorem AppliesTo.nothingNew {call : ResultCall}
    (applies : AppliesTo codec call id snapshot base after) : NothingNew base after := by
  obtain ⟨submission, json, line, _, _, _, _, exists', _, _, rfl⟩ := applies
  refine ⟨fun id' present => ?_, fun messageId row found => ⟨row, by simpa using found, .refl row⟩⟩
  by_cases mine : id' = id
  · rw [mine]
    exact exists'
  · simpa [mine] using present

theorem later_setReceipt (db : Tables) (messageId : Bytes) (receipt : JudgeResultReceipt) :
    Later db (db.setReceipt messageId receipt) := by
  refine ⟨fun _ submission found => ?_, fun messageId' row found => ?_⟩
  · exact ⟨submission, by simpa using found, id⟩
  · exact ⟨row, by simpa using found, .refl row⟩

theorem admitted_apply {db : Tables} {call : ResultCall}
    (admitted : (workload codec).admits db (.apply call) = true) :
    finalStatus call.result.status = true ∧
      ∃ row task, db.outbox call.request.messageId = some row ∧
        codec.parseTask row.payload = some task ∧ task.messageId = call.request.messageId ∧
        task.target = call.request.target := by
  obtain ⟨row, found, valid⟩ := (any_eq_true _ _).mp admitted
  rw [Bool.and_eq_true] at valid
  obtain ⟨task, validated⟩ := isSome_iff_exists.mp valid.1
  obtain ⟨parsed, sameMessage, _, sameTarget⟩ := validateTaskPayload_eq_some validated
  exact ⟨valid.2, row, task, found, parsed, sameMessage, sameTarget⟩

/-- **Commits lead to later states.** -/
theorem later_of_committed {call : Call}
    (admitted : (workload codec).admits entry call = true) (before : Later snapshot base)
    (committed : Committed codec snapshot base after call) : Later base after := by
  cases call with
  | create => exact Creates.later committed
  | createCustom => exact CreatesCustom.later committed
  | claim => exact Claims.later committed
  | settle =>
    obtain ⟨row, row', found, same, _, rfl⟩ := Settles.sameTask committed before
    exact later_setOutbox found same
  | apply call =>
    rcases committed with ⟨id, applies⟩ | ⟨id, _, _, rfl⟩ | rfl
    · exact applies.later (admitted_apply admitted).1
    · exact later_setReceipt base call.request.messageId _
    · exact .refl _

/-! ## Consistent tables -/

def Names (codec : Codec) (messageId : Bytes) (row : JudgeOutbox) (id : UInt64) : Prop :=
  ∃ task, codec.parseTask row.payload = some task ∧ task.messageId = messageId ∧
    task.target = some (.submission id)

theorem JudgeOutbox.SameTask.names {row row' : JudgeOutbox} (same : row.SameTask row')
    (names : Names codec messageId row id) :
    Names codec messageId row' id := by
  rwa [Names, same.1]

structure Consistent (codec : Codec) (db : Tables) : Prop where
  existing : ∀ messageId row id, db.outbox messageId = some row → Names codec messageId row id →
    (db.submission id).isSome = true
  column : ∀ messageId row id, db.outbox messageId = some row → row.submissionId = some id →
    Names codec messageId row id
  unique : ∀ messageId messageId' row row' id, db.outbox messageId = some row →
    db.outbox messageId' = some row' → Names codec messageId row id →
    Names codec messageId' row' id → messageId = messageId'
  applied : ∀ messageId receipt id, db.receipt messageId = some receipt →
    receipt.submissionId = some id →
    (∃ submission, db.submission id = some submission ∧ waiting submission.status = false) ∧
      ∃ row, db.outbox messageId = some row ∧ Names codec messageId row id
  dead : ∀ messageId row id, db.outbox messageId = some row → row.status = .dead →
    row.submissionId = some id →
    ∃ submission, db.submission id = some submission ∧ waiting submission.status = false

section

variable (consistent : Consistent codec base)
include consistent

theorem Consistent.of_nothingNew (later : Later base after) (nothingNew : NothingNew base after)
    (applied : ∀ messageId receipt id, after.receipt messageId = some receipt →
      receipt.submissionId = some id → base.receipt messageId = some receipt ∨
        HasVerdict after id ∧
        ∃ row, base.outbox messageId = some row ∧ Names codec messageId row id)
    (dead : ∀ messageId row id, after.outbox messageId = some row → row.status = .dead →
      row.submissionId = some id → base.outbox messageId = some row ∨ HasVerdict after id) :
    Consistent codec after := by
  have kept : ∀ {messageId row id}, base.outbox messageId = some row →
      Names codec messageId row id →
      ∃ row', after.outbox messageId = some row' ∧ Names codec messageId row' id := by
    intro messageId row id found names
    obtain ⟨row', found', same⟩ := later.outbox _ _ found
    exact ⟨row', found', same.names names⟩
  constructor
  case existing =>
    intro messageId row id found names
    obtain ⟨row', found', same⟩ := nothingNew.outbox _ _ found
    obtain ⟨submission, shown⟩ := isSome_iff_exists.mp
      (consistent.existing _ _ _ found' (same.symm.names names))
    obtain ⟨submission', shown', _⟩ := later.submission _ _ shown
    exact isSome_iff_exists.mpr ⟨submission', shown'⟩
  case column =>
    intro messageId row id found names
    obtain ⟨row', found', same⟩ := nothingNew.outbox _ _ found
    exact same.names (consistent.column _ _ _ found' (same.2.symm.trans names))
  case unique =>
    intro messageId messageId' row row' id found found' names names'
    obtain ⟨old, before, same⟩ := nothingNew.outbox _ _ found
    obtain ⟨old', before', same'⟩ := nothingNew.outbox _ _ found'
    exact consistent.unique _ _ _ _ _ before before' (same.symm.names names)
      (same'.symm.names names')
  case applied =>
    intro messageId receipt id found names
    rcases applied _ _ _ found names with before | ⟨verdict, row, found', names'⟩
    · obtain ⟨verdict, row, found', names'⟩ := consistent.applied _ _ _ before names
      exact ⟨later.hasVerdict verdict, kept found' names'⟩
    · exact ⟨verdict, kept found' names'⟩
  case dead =>
    intro messageId row id found isDead names
    rcases dead _ _ _ found isDead names with before | verdict
    · exact later.hasVerdict (consistent.dead _ _ _ before isDead names)
    · exact verdict

theorem Consistent.claim {call : ClaimCall} (consistent' : Consistent codec snapshot)
    (before : Later snapshot base)
    (claims : Claims call snapshot base after) : Consistent codec after := by
  have later := claims.later
  refine consistent.of_nothingNew later (claims.nothingNew fun messageId row id found names =>
    consistent.existing _ _ _ found (consistent.column _ _ _ found names)) ?_ ?_
  · intro messageId receipt id found _
    exact .inl ((claims.receipt messageId).symm.trans found)
  · intro messageId row id found isDead names
    rcases claims.outbox messageId with same | ⟨old, found', _, kind⟩
    · exact .inl (same.symm.trans found)
    rcases kind with ⟨_, written⟩ | ⟨_, written, looked⟩
    · cases written.symm.trans found
      cases isDead
    cases written.symm.trans found
    right
    -- the row was locked before the snapshot, so the snapshot shows its submission
    obtain ⟨same, gone | verdict | verdict⟩ := looked id names
    · have shown := consistent'.existing _ _ _ (same.trans found')
        (consistent'.column _ _ _ (same.trans found') names)
      rw [gone] at shown
      cases shown
    · exact later.hasVerdict (before.hasVerdict verdict)
    · exact verdict

theorem Consistent.settle {call : SettleCall} (before : Later snapshot base)
    (settles : Settles call snapshot base after) :
    Consistent codec after := by
  obtain ⟨row, row', found, same, alive, rfl⟩ := settles.sameTask before
  refine consistent.of_nothingNew (later_setOutbox found same) (nothingNew_setOutbox found same)
    (fun messageId receipt id found' _ => .inl (by simpa using found')) ?_
  intro messageId other id found' isDead _
  rcases eq_or_of_setOutbox found' with ⟨rfl, rfl⟩ | unchanged
  · exact absurd isDead alive
  · exact .inl unchanged

theorem Consistent.apply {call : ResultCall} {entry : Tables}
    (admitted : (workload codec).admits entry (.apply call) = true) (since : Later entry base)
    (applies : Applies codec call snapshot base after) : Consistent codec after := by
  obtain ⟨final, row, task, found, parsed, isMessage, isTarget⟩ := admitted_apply admitted
  obtain ⟨row', found', same⟩ := since.outbox _ _ found
  rcases applies with ⟨id, applies⟩ | ⟨id, target, _, rfl⟩ | rfl
  · have later := applies.later final
    have nothingNew := applies.nothingNew
    obtain ⟨submission, json, line, target, _, _, _, _, _, _, rfl⟩ := applies
    have names : Names codec call.request.messageId row' id :=
      same.names ⟨task, parsed, isMessage, isTarget.trans target⟩
    refine consistent.of_nothingNew later nothingNew ?_ ?_
    · intro messageId receipt id' isReceipt isFor
      rcases eq_or_of_setReceipt isReceipt with ⟨rfl, rfl⟩ | unchanged
      · cases isFor
        refine .inr ⟨⟨appliedSubmission submission call.result json call.now, by simp, ?_⟩,
          row', found', names⟩
        exact not_waiting_of_final final
      · exact .inl (by simpa using unchanged)
    · intro messageId row id' isRow _ _
      exact .inl (by simpa using isRow)
  · refine consistent.of_nothingNew (later_setReceipt base call.request.messageId _) ?_ ?_ ?_
    · exact ⟨fun id' present => by simpa using present,
        fun messageId row isRow => ⟨row, by simpa using isRow, .refl row⟩⟩
    · intro messageId receipt id' isReceipt isFor
      rcases eq_or_of_setReceipt isReceipt with ⟨rfl, rfl⟩ | unchanged
      · cases isFor
      · exact .inl unchanged
    · intro messageId row id' isRow _ _
      exact .inl (by simpa using isRow)
  · exact consistent

end

theorem parse_namedTask (textual : call.task.textual = true)
    (serialized : codec.serializeTask (call.namedTask id) = some payload) :
    codec.parseTask payload = some (call.namedTask id) := by
  refine codec.parse_serialize ?_ serialized
  simp only [JudgeTaskMessage.textual, Bool.and_eq_true] at textual ⊢
  exact ⟨⟨textual.1.1, rfl⟩, textual.2⟩

section

variable (consistent : Consistent codec base)
include consistent

theorem Consistent.addOutbox {messageId : Bytes} {row : JudgeOutbox}
    (unknown : base.outbox messageId = none)
    (alive : row.status ≠ .dead)
    (column : ∀ id, row.submissionId = some id → Names codec messageId row id)
    (fresh : ∀ id, Names codec messageId row id → (base.submission id).isSome = true ∧
      ∀ messageId' row', base.outbox messageId' = some row' → ¬Names codec messageId' row' id) :
    Consistent codec (base.setOutbox messageId row) := by
  constructor
  case existing =>
    intro messageId' row' id found names
    rw [submission_setOutbox]
    rcases eq_or_of_setOutbox found with ⟨rfl, rfl⟩ | before
    · exact (fresh id names).1
    · exact consistent.existing _ _ _ before names
  case column =>
    intro messageId' row' id found names
    rcases eq_or_of_setOutbox found with ⟨rfl, rfl⟩ | before
    · exact column id names
    · exact consistent.column _ _ _ before names
  case unique =>
    intro first second row₁ row₂ id found found' names names'
    rcases eq_or_of_setOutbox found with ⟨rfl, rfl⟩ | before
    · rcases eq_or_of_setOutbox found' with ⟨rfl, rfl⟩ | before'
      · rfl
      · exact absurd names' ((fresh id names).2 _ _ before')
    · rcases eq_or_of_setOutbox found' with ⟨rfl, rfl⟩ | before'
      · exact absurd names ((fresh id names').2 _ _ before)
      · exact consistent.unique _ _ _ _ _ before before' names names'
  case applied =>
    intro messageId' receipt id found names
    rw [receipt_setOutbox] at found
    obtain ⟨verdict, row', found', names'⟩ := consistent.applied _ _ _ found names
    have other : messageId' ≠ messageId := ne_of_apply_ne base.outbox (by simp [found', unknown])
    exact ⟨by simpa using verdict, row', by simp [other, found'], names'⟩
  case dead =>
    intro messageId' row' id found isDead names
    rcases eq_or_of_setOutbox found with ⟨rfl, rfl⟩ | before
    · exact absurd isDead alive
    · simpa using consistent.dead _ _ _ before isDead names

theorem Consistent.addSubmission (fresh : base.submission id = none) (submission : Submission) :
    Consistent codec (base.setSubmission id submission) := by
  have verdictKept : ∀ {id'}, HasVerdict base id' →
      HasVerdict (base.setSubmission id submission) id' := by
    rintro id' ⟨submission', found, verdict⟩
    have other : id' ≠ id := ne_of_apply_ne base.submission (by simp [found, fresh])
    exact ⟨submission', by simp [other, found], verdict⟩
  constructor
  case existing =>
    intro messageId row id' found names
    rw [outbox_setSubmission] at found
    rw [submission_setSubmission]
    split
    · rfl
    · exact consistent.existing _ _ _ found names
  case column =>
    intro messageId row id' found names
    exact consistent.column _ _ _ (by simpa using found) names
  case unique =>
    intro first second row row' id' found found' names names'
    exact consistent.unique _ _ _ _ _ (by simpa using found) (by simpa using found') names names'
  case applied =>
    intro messageId receipt id' found names
    obtain ⟨verdict, row, found', names'⟩ :=
      consistent.applied _ _ _ (by simpa using found) names
    exact ⟨verdictKept verdict, row, by simpa using found', names'⟩
  case dead =>
    intro messageId row id' found isDead names
    exact verdictKept (consistent.dead _ _ _ (by simpa using found) isDead names)

theorem Consistent.create {call : CreateCall} (textual : call.task.textual = true)
    (creates : Creates codec call base after) :
    Consistent codec after := by
  obtain ⟨id, payload, serialized, fresh, unknown, rfl⟩ := creates
  have parsed := parse_namedTask textual serialized
  refine (consistent.addSubmission fresh call.submission).addOutbox (by simpa using unknown)
    (by simp [CreateCall.outbox]) ?_ ?_
  · intro id' names
    cases names
    exact ⟨_, parsed, rfl, rfl⟩
  · rintro id' ⟨task, parsed', _, target⟩
    cases parsed.symm.trans parsed'
    obtain rfl : id = id' := by
      simpa [CreateCall.namedTask] using target
    refine ⟨by simp, fun messageId row found names => ?_⟩
    have existing := consistent.existing _ _ _ (by simpa using found) names
    rw [fresh] at existing
    cases existing

theorem Consistent.createCustom {now : DateTime} (textual : task.textual = true)
    (creates : CreatesCustom codec task now base after) : Consistent codec after := by
  obtain ⟨id, payload, target, serialized, unknown, rfl⟩ := creates
  have parsed := codec.parse_serialize textual serialized
  refine consistent.addOutbox unknown (by simp) nofun ?_
  rintro id' ⟨task', parsed', _, target'⟩
  cases parsed.symm.trans parsed'
  rw [target] at target'
  cases target'

theorem Consistent.committed {call : Call} {entry : Tables}
    (consistent' : Consistent codec snapshot)
    (admitted : (workload codec).admits entry call = true) (since : Later entry base)
    (before : Later snapshot base) (committed : Committed codec snapshot base after call) :
    Consistent codec after := by
  cases call with
  | create => exact consistent.create admitted committed
  | createCustom => exact consistent.createCustom admitted committed
  | claim => exact consistent.claim consistent' before committed
  | settle => exact consistent.settle before committed
  | apply => exact consistent.apply admitted since committed

end

/-! ## Submissions and their outbox rows -/

structure Paired (codec : Codec) (initial db : Tables) : Prop where
  consistent : Consistent codec db
  created : ∀ id, (db.submission id).isSome = true → initial.submission id = none →
    ∃ messageId row, db.outbox messageId = some row ∧ row.submissionId = some id

theorem Paired.committed {call : Call} (paired : Paired codec initial base)
    (consistent : Consistent codec snapshot)
    (admitted : (workload codec).admits entry call = true) (since : Later entry base)
    (before : Later snapshot base) (committed : Committed codec snapshot base after call) :
    Paired codec initial after := by
  have later := later_of_committed admitted before committed
  refine ⟨paired.consistent.committed consistent admitted since before committed,
    fun id present created => ?_⟩
  -- a submission is older than the commit, or it is the one that was created
  have old : (base.submission id).isSome = true →
      ∃ messageId row, after.outbox messageId = some row ∧ row.submissionId = some id := by
    intro present'
    obtain ⟨messageId, row, found, names⟩ := paired.created id present' created
    obtain ⟨row', found', same⟩ := later.outbox _ _ found
    exact ⟨messageId, row', found', same.2.trans names⟩
  cases call with
  | create call =>
    obtain ⟨id', payload, _, _, _, rfl⟩ := committed
    by_cases mine : id = id'
    · subst mine
      exact ⟨call.task.messageId, call.outbox id payload, by simp, rfl⟩
    · exact old (by simpa [mine] using present)
  | createCustom =>
    obtain ⟨_, _, _, _, _, rfl⟩ := committed
    exact old (by simpa using present)
  | claim =>
    refine old ((Claims.nothingNew committed fun messageId row id found names => ?_).submission
      id present)
    exact paired.consistent.existing _ _ _ found (paired.consistent.column _ _ _ found names)
  | settle =>
    obtain ⟨_, _, _, _, rfl⟩ := committed
    exact old (by simpa using present)
  | apply =>
    rcases committed with ⟨_, applies⟩ | ⟨_, _, _, rfl⟩ | rfl
    · exact old (applies.nothingNew.submission id present)
    · exact old (by simpa using present)
    · exact old present

def unrestricted (_ : Call) (_ : Key) : Prop := False

def pairingOutline (codec : Codec) (initial : Tables) :
    Outline (workload codec) (Unchanged unrestricted) :=
  ofCommitted codec unrestricted (Paired codec initial) Later (fun _ => Later) .refl .trans (·)
    fun admitted paired' paired since before committed _ =>
      ⟨paired.committed paired'.consistent admitted (since.trans before) before committed,
        later_of_committed admitted before committed⟩

theorem paired_of_reachable (consistent : Consistent codec initial) {s : State (workload codec)}
    (reachable : (system (workload codec) initial).Reachable s) : Paired codec initial s.db := by
  have inv : Paired codec initial initial := by
    refine ⟨consistent, fun id present created => ?_⟩
    rw [created] at present
    cases present
  refine ((pairingOutline codec initial).sound_of_reachable inv (reachable.mono ?_)).inv
  exact fun s action _ => commitsWhen_of_forall (fun _ _ _ _ never => never.elim) s action

/-- **Each created submission has exactly one outbox row**, and while that row is dead the
submission does not wait. -/
theorem submission_outbox_pairing (codec : Codec) (initial : Tables)
    (consistent : Consistent codec initial) (s : State (workload codec))
    (reachable : (system (workload codec) initial).Reachable s) (id : UInt64)
    (present : (Tables.submission s.db id).isSome = true) (created : initial.submission id = none) :
    (∃! messageId, ∃ row, Tables.outbox s.db messageId = some row ∧
      row.submissionId = some id ∧
      ∃ task, codec.parseTask row.payload = some task ∧ task.target = some (.submission id)) ∧
    ∀ messageId row submission, Tables.outbox s.db messageId = some row →
      row.submissionId = some id → row.status = .dead →
      Tables.submission s.db id = some submission →
      submission.status ≠ .queued ∧ submission.status ≠ .judging := by
  have paired := paired_of_reachable consistent reachable
  constructor
  · obtain ⟨messageId, row, found, names⟩ := paired.created id present created
    have named := paired.consistent.column _ _ _ found names
    have ⟨task, parsed, _, target⟩ := named
    refine ⟨messageId, ⟨row, found, names, task, parsed, target⟩, ?_⟩
    rintro messageId' ⟨row', found', names', _⟩
    exact paired.consistent.unique _ _ _ _ _ found' found
      (paired.consistent.column _ _ _ found' names') named
  · intro messageId row submission found names isDead shown
    obtain ⟨submission', shown', verdict⟩ :=
      paired.consistent.dead _ _ _ found isDead names
    cases shown.symm.trans shown'
    simpa [waiting] using verdict

/-! ## A submission that is given up -/

def sampleTask : JudgeTaskMessage := { messageId := [7] }

def sampleNamedTask : JudgeTaskMessage := { sampleTask with target := some (.submission 1) }

def sampleCodec : Codec where
  serializeTask task := if task = sampleNamedTask then some [1] else none
  parseTask payload := if payload = [1] then some sampleNamedTask else none
  messageToJson result := if result.status = .accepted then some [2] else none
  parse_serialize := by
    intro task payload _ serialized
    split at serialized
    case isTrue same =>
      cases serialized
      rw [same]
      rfl
    case isFalse => cases serialized

def emptyTables : Tables := fun _ => none

theorem consistent_emptyTables (codec : Codec) : Consistent codec emptyTables where
  existing _ _ _ found := by cases found
  column _ _ _ found := by cases found
  unique _ _ _ _ _ found := by cases found
  applied _ _ _ found := by cases found
  dead _ _ _ found := by cases found

def sampleCreate : Call :=
  .create
    { userId := 3
      questionId := [1]
      code := [97]
      language := []
      task := sampleTask
      now := 0 }

def sampleClaim (owner : String) (now : DateTime) : Call :=
  .claim
    { limit := 4
      owner := owner
      leaseSeconds := 30
      confirmTimeoutSeconds := 5
      now := now
      completedAt := fun _ => now }

def givenUpRun : List (Action (workload sampleCodec)) :=
  [.start 0 sampleCreate, .proceed 0 { number := 1 }, .proceed 0 {}, .proceed 0 {},
    .start 1 (sampleClaim "a" 900000001), .proceed 1 { rows := [.outbox [7]] }, .proceed 1 {},
    .proceed 1 {}, .proceed 1 {}, .proceed 1 {}]

theorem submission_outbox_pairing_given_up :
    ∃ s : State (workload sampleCodec), (system (workload sampleCodec) emptyTables).Reachable s ∧
      (Tables.outbox s.db [7]).any (·.status = .dead) = true ∧
      (∃! messageId, ∃ row, Tables.outbox s.db messageId = some row ∧
        row.submissionId = some 1 ∧
        ∃ task, sampleCodec.parseTask row.payload = some task ∧
          task.target = some (.submission 1)) := by
  obtain ⟨s, reachable, check⟩ := (system (workload sampleCodec) emptyTables).exists_of_run
    givenUpRun
    (fun s => (Tables.submission s.db 1).isSome &&
      (Tables.outbox s.db [7]).any (·.status = .dead)) (by decide +kernel)
  rw [Bool.and_eq_true] at check
  exact ⟨s, reachable, check.2, (submission_outbox_pairing sampleCodec emptyTables
    (consistent_emptyTables _) s reachable 1 check.1 rfl).1⟩

end OnlineJudge.Store
