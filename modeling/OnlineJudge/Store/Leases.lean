import OnlineJudge.Store.Consistency

/-!
# The life of an outbox row

`ClaimPendingOutbox` locks the rows it claims; `UpdateOutbox` reads a row without a lock and writes
all columns back, perhaps over a new lease (`stale_settlement`).
-/

namespace OnlineJudge.Store

open Delivery RepeatableRead Tables JudgeOutbox

variable {codec : Codec} {snapshot base after : Tables}

/-! ## Rows -/

def JudgeOutbox.Leased (row : JudgeOutbox) : Prop :=
  row.attemptCount ≤ outboxMaxAttempts ∧ (row.leaseOwner.isSome = true ↔ row.status = .sending)

def Call.owner : Call → Option String
  | .claim call => some call.owner
  | .settle call => some call.owner
  | _ => none

def Call.clock : Call → DateTime
  | .create call => call.now
  | .createCustom _ now => now
  | .claim call => call.now
  | .settle call => call.now
  | .apply call => call.now

def JudgeOutbox.leaseExpired (row : JudgeOutbox) (call : Call) : Prop :=
  row.leaseExpiresAt.all (· ≤ call.clock) = true

structure JudgeOutbox.Advances (row row' : JudgeOutbox) : Prop where
  status : row.status = .published ∨ row.status = .dead → row'.status = row.status
  attemptCount : row.attemptCount ≤ row'.attemptCount

def JudgeOutbox.LosesLease (row row' : JudgeOutbox) : Prop :=
  row.status = .sending ∧ (row'.leaseOwner ≠ row.leaseOwner ∨ row'.status ≠ .sending)

structure Moves (call : Call) (row row' : JudgeOutbox) : Prop where
  advances : row.Advances row'
  lease : row.LosesLease row' → call.owner = row.leaseOwner ∨ row.leaseExpired call

theorem JudgeOutbox.Advances.refl (row : JudgeOutbox) : row.Advances row :=
  ⟨fun _ => rfl, Nat.le_refl _⟩

theorem JudgeOutbox.not_losesLease (row : JudgeOutbox) : ¬row.LosesLease row := by
  rintro ⟨sending, other | idle⟩
  · exact other rfl
  · exact idle sending

theorem Moves.refl (call : Call) (row : JudgeOutbox) : Moves call row row :=
  ⟨.refl row, fun loses => absurd loses row.not_losesLease⟩

namespace JudgeOutbox

variable {row : JudgeOutbox}

theorem claimable_cases {now : DateTime} (claimable : row.claimable now = true) :
    row.status = .pending ∨ row.status = .sending ∧ row.leaseExpiresAt.all (· ≤ now) = true := by
  simp only [JudgeOutbox.claimable, decide_eq_true_eq] at claimable
  rcases claimable with ⟨pending, _⟩ | sending
  · exact .inl pending
  · exact .inr sending

theorem not_final_of_claimable {now : DateTime} (claimable : row.claimable now = true) :
    ¬(row.status = .published ∨ row.status = .dead) := by
  rcases claimable_cases claimable with pending | ⟨sending, _⟩
  · simp [pending]
  · simp [sending]

end JudgeOutbox

variable {call : ClaimCall}

theorem moves_of_claimable {row row' : JudgeOutbox} (claimable : row.claimable call.now = true)
    (counted : row.attemptCount ≤ row'.attemptCount) :
    Moves (.claim call) row row' := by
  refine ⟨⟨fun final => absurd final (not_final_of_claimable claimable), counted⟩, ?_⟩
  rintro ⟨sending, _⟩
  rcases claimable_cases claimable with pending | ⟨_, expired⟩
  · rw [sending] at pending
    cases pending
  · exact .inr expired

variable {row : JudgeOutbox}

theorem leased_claimed (alive : row.givenUp call.now = false) : (call.claimed row).Leased := by
  simp only [givenUp, decide_eq_false_iff_not, not_or, ge_iff_le, not_le] at alive
  refine ⟨alive.2, ?_⟩
  simp [ClaimCall.claimed, claimed]

theorem leased_settled (leased : row.Leased) (published : Bool) (retryDelaySeconds : UInt32)
    (now : DateTime) :
    (row.settled published retryDelaySeconds now).Leased := by
  cases published
  · exact ⟨leased.1, by simp [settled]⟩
  · exact ⟨leased.1, by simp [settled]⟩

theorem moves_of_heldBy {call : SettleCall} (held : row.heldBy call.owner = true) :
    Moves (.settle call) row (row.settled call.published call.retryDelaySeconds call.now) := by
  simp only [heldBy, decide_eq_true_eq] at held
  refine ⟨⟨fun final => ?_, ?_⟩, fun _ => .inl held.2.symm⟩
  · rw [held.1] at final
    rcases final with published | dead
    · cases published
    · cases dead
  · cases call.published <;> exact Nat.le_refl _

/-! ## Commits -/

def RowsLeased (db : Tables) : Prop :=
  ∀ messageId row, db.outbox messageId = some row → row.Leased

def MovesRows (call : Call) (db db' : Tables) : Prop :=
  ∀ messageId row, db.outbox messageId = some row →
    ∃ row', db'.outbox messageId = some row' ∧ Moves call row row'

/-- The row that `UpdateOutbox` writes. -/
def settlesRow : Call → Key → Prop
  | .settle call, k => k = .outbox call.messageId
  | _, _ => False

section

variable (leased : RowsLeased base)
include leased

theorem keepsRows_of_same {call : Call}
    (same : ∀ messageId, after.outbox messageId = base.outbox messageId) :
    RowsLeased after ∧ MovesRows call base after := by
  refine ⟨fun messageId row found => leased messageId row (same messageId ▸ found),
    fun messageId row found => ⟨row, (same messageId).trans found, .refl call row⟩⟩

theorem keepsRows_of_new {call : Call} {messageId : Bytes} {row : JudgeOutbox} (fresh : row.Leased)
    (unknown : base.outbox messageId = none)
    (rows : ∀ messageId', after.outbox messageId' =
      if messageId' = messageId then some row else base.outbox messageId') :
    RowsLeased after ∧ MovesRows call base after := by
  refine ⟨fun messageId' row' found => ?_, fun messageId' row' found => ?_⟩
  · rw [rows] at found
    split at found
    · cases found
      exact fresh
    · exact leased _ _ found
  · have other : messageId' ≠ messageId := by
      rintro rfl
      rw [unknown] at found
      cases found
    exact ⟨row', by rw [rows, if_neg other, found], .refl call row'⟩

theorem Claims.keepsRows (claims : Claims call snapshot base after) :
    RowsLeased after ∧ MovesRows (.claim call) base after := by
  refine ⟨fun messageId row' found => ?_, fun messageId row found => ?_⟩
  · rcases claims.outbox messageId with same | ⟨row, before, _, ⟨alive, written⟩ | ⟨_, written, _⟩⟩
    · exact leased _ _ (same.symm.trans found)
    · cases written.symm.trans found
      exact leased_claimed alive
    · cases written.symm.trans found
      exact ⟨(leased _ _ before).1, by simp [terminal]⟩
  · rcases claims.outbox messageId with same | ⟨row', before, claimable, kind⟩
    · exact ⟨row, same.trans found, .refl _ row⟩
    · cases found.symm.trans before
      rcases kind with ⟨_, written⟩ | ⟨_, written, _⟩
      · exact ⟨_, written, moves_of_claimable claimable (Nat.le_succ _)⟩
      · exact ⟨_, written, moves_of_claimable claimable (Nat.le_refl _)⟩

theorem Settles.keepsRows {call : SettleCall} (settles : Settles call snapshot base after)
    (seen : after.outbox call.messageId ≠ base.outbox call.messageId →
      snapshot.outbox call.messageId = base.outbox call.messageId) :
    RowsLeased after ∧ MovesRows (.settle call) base after := by
  obtain ⟨row, shown, held, _, rfl⟩ := settles
  by_cases same : (base.setOutbox call.messageId (row.settled call.published
      call.retryDelaySeconds call.now)).outbox call.messageId = base.outbox call.messageId
  · refine keepsRows_of_same leased fun messageId => ?_
    by_cases mine : messageId = call.messageId
    · rw [mine, same]
    · simp [mine]
  -- the row is the committed one, so the publisher still holds its lease
  have found : base.outbox call.messageId = some row := (seen same).symm.trans shown
  refine ⟨fun messageId row' found' => ?_, fun messageId row' found' => ?_⟩
  · by_cases mine : messageId = call.messageId
    · subst mine
      obtain rfl : row.settled call.published call.retryDelaySeconds call.now = row' := by
        simpa using found'
      exact leased_settled (leased _ _ found) _ _ _
    · exact leased _ _ (by simpa [mine] using found')
  · by_cases mine : messageId = call.messageId
    · subst mine
      cases found.symm.trans found'
      exact ⟨_, by simp, moves_of_heldBy held⟩
    · exact ⟨row', by simp [mine, found'], .refl _ row'⟩

theorem keepsRows_of_committed {call : Call} (committed : Committed codec snapshot base after call)
    (seen : ∀ k, settlesRow call k → after k ≠ base k → snapshot k = base k) :
    RowsLeased after ∧ MovesRows call base after := by
  cases call with
  | create call =>
    obtain ⟨id, payload, _, _, unknown, rfl⟩ := committed
    have fresh : (call.outbox id payload).Leased :=
      ⟨Nat.zero_le _, by simp [CreateCall.outbox]⟩
    exact keepsRows_of_new leased fresh unknown fun messageId => by simp
  | createCustom task now =>
    obtain ⟨id, payload, _, _, unknown, rfl⟩ := committed
    have fresh : JudgeOutbox.Leased
        { customTaskId := some id, payload := payload, createdAt := now } :=
      ⟨Nat.zero_le _, by simp⟩
    exact keepsRows_of_new leased fresh unknown fun messageId => by simp
  | claim => exact Claims.keepsRows leased committed
  | settle => exact Settles.keepsRows leased committed (seen _ rfl)
  | apply =>
    rcases committed with ⟨id, _, _, _, _, _, _, _, _, _, _, rfl⟩ | ⟨_, _, _, rfl⟩ | rfl
    · exact keepsRows_of_same leased fun messageId => by simp
    · exact keepsRows_of_same leased fun messageId => by simp
    · exact keepsRows_of_same leased fun _ => rfl

end

/-! ## All runs -/

def leaseOutline (codec : Codec) : Outline (workload codec) (Unchanged settlesRow) :=
  ofCommitted codec settlesRow RowsLeased (fun _ _ => True) MovesRows (fun _ => trivial)
    (fun _ _ => trivial) (fun _ => trivial)
    fun _ _ leased _ _ committed seen => keepsRows_of_committed leased committed seen

def actor (s : State (workload codec)) : Action (workload codec) → Option Call
  | .proceed i _ =>
    match s.sessions i with
    | .running call _ _ _ _ => some call
    | _ => none
  | _ => none

/-- **The life of an outbox row**, in every run in which `UpdateOutbox` commits a row only when it
is still as its snapshot showed it. -/
theorem outbox_row_life (codec : Codec) (initial : Tables) (leased : RowsLeased initial)
    (s : State (workload codec))
    (reachable : (system (workload codec) initial).ReachableUnder
      (CommitsWhen (Unchanged settlesRow)) s) :
    (∀ messageId row, outbox s.db messageId = some row →
      row.attemptCount ≤ 20 ∧ (row.leaseOwner.isSome = true ↔ row.status = .sending)) ∧
    ∀ action t, CommitsWhen (Unchanged settlesRow) s action → sessionStep s action = some t →
      ∀ messageId row, outbox s.db messageId = some row →
        ∃ row', outbox t.db messageId = some row' ∧ row.Advances row' ∧
          (row.LosesLease row' → ∃ call, actor s action = some call ∧
            (call.owner = row.leaseOwner ∨ row.leaseExpired call)) := by
  have sound := (leaseOutline codec).sound_of_reachable leased reachable
  refine ⟨sound.inv, fun action t allowed step messageId row found => ?_⟩
  rcases sound.db_step allowed step with
    same | ⟨i, choice, call, progress, result, onError, faulted, rfl, running, _, _, stepped⟩
  · exact ⟨row, by rw [same, found], .refl row, fun loses => absurd loses row.not_losesLease⟩
  obtain ⟨row', found', moves⟩ := stepped messageId row found
  refine ⟨row', found', moves.advances, fun loses => ⟨call, ?_, moves.lease loses⟩⟩
  rw [actor, running]

/-! ## Two runs -/

/-- A publisher settles the message of `sampleTask` as failed. -/
def sampleSettle (owner : String) (now : DateTime) : Call :=
  .settle
    { messageId := [7]
      owner := owner
      published := false
      retryDelaySeconds := 2
      now := now }

/-- The submission is created and its message claimed by the publisher `a`. -/
def claimedRun : List (Action (workload sampleCodec)) :=
  [.start 0 sampleCreate, .proceed 0 { number := 1 }, .proceed 0 {}, .proceed 0 {},
    .start 1 (sampleClaim "a" 1), .proceed 1 { rows := [.outbox [7]] }, .proceed 1 {},
    .proceed 1 {}]

/-- A call of `UpdateOutbox` goes on only when its row is as its snapshot showed it. -/
def settlesSeen (s : State (workload sampleCodec)) : Action (workload sampleCodec) → Bool
  | .proceed i _ =>
    match s.sessions i with
    | .running (.settle call) progress _ _ _ =>
      progress.snapshot.all fun snapshot =>
        decide (outbox snapshot call.messageId = outbox s.db call.messageId)
    | _ => true
  | _ => true

theorem commitsWhen_of_settlesSeen (s : State (workload sampleCodec))
    (action : Action (workload sampleCodec)) (seen : settlesSeen s action = true) :
    CommitsWhen (Unchanged settlesRow) s action := by
  cases action with
  | proceed =>
    intro call progress result onError faulted running k isKind _ snapshot taken
    cases call with
    | settle call =>
      rw [settlesSeen, running] at seen
      change progress.snapshot.all (fun snapshot => decide (outbox snapshot
        call.messageId = outbox s.db call.messageId)) = true at seen
      rw [taken, Option.all_some, decide_eq_true_eq] at seen
      obtain rfl := isKind
      exact seen
    | _ => exact isKind.elim
  | _ => trivial

/-- The publisher `a` settles the message it has claimed. -/
theorem outbox_row_life_settled :
    ∃ s : State (workload sampleCodec),
      (outbox s.db [7]).map (fun row => (row.status, row.attemptCount)) =
        some (.pending, 1) ∧
      ∀ messageId row, outbox s.db messageId = some row →
        row.attemptCount ≤ 20 ∧ (row.leaseOwner.isSome = true ↔ row.status = .sending) := by
  have leased : RowsLeased emptyTables := fun _ _ found => by cases found
  obtain ⟨s, reachable, check⟩ := (system (workload sampleCodec) emptyTables).exists_of_runUnder
    settlesSeen
    (claimedRun ++ [.start 2 (sampleSettle "a" 9), .proceed 2 {}, .proceed 2 {}, .proceed 2 {}])
    (fun s => decide ((outbox s.db [7]).map (fun row => (row.status, row.attemptCount)) =
      some (.pending, 1))) (by decide +kernel)
  exact ⟨s, of_decide_eq_true check, (outbox_row_life sampleCodec emptyTables leased s
    (reachable.mono commitsWhen_of_settlesSeen)).1⟩

/-- The next step of session 2 takes the message from `b`. -/
def takesFromOther (s t : State (workload sampleCodec)) : Bool :=
  match outbox s.db [7], outbox t.db [7] with
  | some row, some row' =>
    decide (row.leaseOwner = some "b" ∧ row.leaseExpiresAt = some 60000001 ∧
      row.status = .sending ∧ row'.status ≠ .sending ∧ row'.attemptCount < row.attemptCount)
  | _, _ => false

/-- The publisher `a` has read its row when the lease runs out and `b` claims the message.  Its
commit counts the attempts down and takes the message from `b`. -/
theorem stale_settlement :
    ∃ (s t : State (workload sampleCodec)) (row row' : JudgeOutbox),
      (system (workload sampleCodec) emptyTables).Reachable s ∧
      sessionStep s (.proceed 2 {}) = some t ∧
      (actor s (.proceed 2 {})).map (fun call => (call.owner, call.clock)) =
        some (some "a", 30000002) ∧
      outbox s.db [7] = some row ∧ outbox t.db [7] = some row' ∧
      row.leaseOwner = some "b" ∧ row.leaseExpiresAt = some 60000001 ∧
      row.LosesLease row' ∧ row'.attemptCount < row.attemptCount := by
  obtain ⟨s, reachable, check⟩ := (system (workload sampleCodec) emptyTables).exists_of_run
    (claimedRun ++ [.start 2 (sampleSettle "a" 30000002), .proceed 2 {},
      .start 3 (sampleClaim "b" 30000001), .proceed 3 { rows := [.outbox [7]] }, .proceed 3 {},
      .proceed 3 {}, .proceed 2 {}])
    (fun s => decide ((actor s (.proceed 2 {})).map (fun call => (call.owner, call.clock)) =
        some (some "a", 30000002)) &&
      (sessionStep s (.proceed 2 {})).any (takesFromOther s))
    (by decide +kernel)
  rw [Bool.and_eq_true, decide_eq_true_eq] at check
  obtain ⟨t, step, takes⟩ := (Option.any_eq_true _ _).mp check.2
  unfold takesFromOther at takes
  split at takes
  case h_1 row row' found found' =>
    rw [decide_eq_true_eq] at takes
    obtain ⟨owner, expires, sending, idle, fewer⟩ := takes
    exact ⟨s, t, row, row', reachable, step, check.1, found, found', owner, expires,
      ⟨sending, .inr idle⟩, fewer⟩
  case h_2 => cases takes

end OnlineJudge.Store
