import OnlineJudge.Discussions.Locks

/-!
# What the transactions of the discussions do when they commit

What a transaction has read under locks is still there when it commits, so that its writes amount
to one operation on the committed rows: one `outlined_` lemma for each transaction.
-/

namespace OnlineJudge.Discussions

open LockedTransactions List Lock Tables CommentDraft
open Store (DateTime)

/-! ## The operations -/

def Tables.addComment (row : Comment) (solution : Solution) (db : Tables) : Tables :=
  if row.parentId = none then
    (db.insertComment row).updateSolution
      { solution with commentCount := solution.commentCount + 1 }
  else db.insertComment row

def Tables.removeThread (row : Comment) (erased : List Nat) (solution : Solution) (db : Tables) :
    Tables :=
  if row.parentId.getD 0 = 0 then
    (db.eraseComments (row.id :: erased)).updateSolution
      { solution with commentCount := solution.commentCount - 1 }
  else db.eraseComments (row.id :: erased)

theorem Tables.foldl_eraseActionsOn (ids : List Nat) (db : Tables) :
    ids.foldl (fun db child => db.eraseActionsOn (.comment child)) db =
      { db with actions := db.actions.filter fun action =>
        ∀ id ∈ ids, action.target ≠ .comment id } := by
  induction ids generalizing db with
  | nil => simp
  | cons child rest ih =>
    rw [foldl_cons, ih]
    simp only [eraseActionsOn, filter_filter, mk.injEq, true_and, and_true]
    refine filter_congr fun action _ => ?_
    rw [Bool.eq_iff_iff]
    simp [and_comm]

theorem Tables.eraseComments_cons {childIds erased : List Nat} (known : childIds ⊆ erased)
    (id : Nat) (db : Tables) :
    (((childIds.foldl (fun db child => db.eraseActionsOn (.comment child)) db).eraseComments
      erased).eraseActionsOn (.comment id)).eraseComments [id] =
        db.eraseComments (id :: erased) := by
  rw [foldl_eraseActionsOn]
  refine Tables.ext rfl rfl (Table.ext ?_) ?_ rfl
  · simp only [eraseComments, eraseActionsOn, Table.keep, filter_filter]
    refine filter_congr fun row _ => ?_
    rw [Bool.eq_iff_iff]
    simp
  · simp only [eraseComments, eraseActionsOn, filter_filter]
    refine filter_congr fun action _ => ?_
    rw [Bool.eq_iff_iff]
    simp only [decide_eq_true_eq, Bool.and_eq_true, mem_cons, forall_eq_or_imp]
    constructor
    · rintro ⟨_, self, others, _⟩
      exact ⟨self, others⟩
    · rintro ⟨self, others⟩
      have none_left : ∀ child ∈ ([] : List Nat), action.target ≠ .comment child :=
        fun _ mem => absurd mem not_mem_nil
      exact ⟨⟨self, none_left⟩, self, others, fun child mem => others child (known mem)⟩

/-! ## The contract -/

structure Terms where
  setting : Setting
  admits : Tables → Call → Bool
  Inv : Tables → Prop
  Meets : Call → Tables → Prop
  tracked : Bool

def Terms.workload (terms : Terms) : Workload Tables Lock Reply where
  Call := Call
  body := Call.body terms.setting
  admits := terms.admits
  conflict := conflict

def Terms.contract (terms : Terms) : Contract terms.workload where
  Inv := terms.Inv
  Grows := Grows
  Agree := Agree terms.tracked
  Meets := terms.Meets

theorem Lock.conflict_comm (first second : Lock) :
    first.conflict second = second.conflict first := by
  cases first <;> cases second <;> simp [conflict, eq_comm, Bool.or_comm]

theorem Lock.conflict_comment (id : Nat) : (comment id).conflict (.comment id) = true := by
  simp [conflict]

theorem Lock.conflict_solution (id : Nat) : (solution id).conflict (.solution id) = true := by
  simp [conflict]

theorem ne_of_conflict {mine lock lock' : Lock} (compatible : mine.conflict lock = false)
    (conflicts : mine.conflict lock' = true) : lock ≠ lock' := by
  rintro rfl
  rw [compatible] at conflicts
  cases conflicts

section Outlines

variable {terms : Terms} {call : Call} {fresh : Bool} {fact : Tables → Prop} {held : List Lock}

/-! ## Facts that locks protect -/

variable {commentId uid : Nat} {action : ActionRow} {solution : Solution} {row : Comment}
    {db : Tables} {now : DateTime}

theorem stable_findComment (mem : comment commentId ∈ held) (found : Option Comment) :
    terms.contract.Stable held fun db => db.findComment commentId = found := by
  intro db db' rely holds
  have kept : CommentKept terms.tracked commentId db db' := rely.agree _ mem
  exact kept.found.trans holds

theorem stable_used (mem : comment commentId ∈ held) (used : Bool) :
    terms.contract.Stable held fun db => db.used commentId = used := by
  intro db db' rely holds
  have kept : CommentKept terms.tracked commentId db db' := rely.agree _ mem
  exact kept.used.trans holds

theorem stable_findSolution {solutionId : Nat} (mem : Lock.solution solutionId ∈ held)
    (found : Option Solution) :
    terms.contract.Stable held fun db => db.findSolution solutionId = found := by
  intro db db' rely holds
  have kept : SolutionKept terms.tracked solutionId db db' := rely.agree _ mem
  exact kept.found.trans holds

theorem stable_hasUser {exclusive : Bool} (mem : user uid exclusive ∈ held) (found : Bool) :
    terms.contract.Stable held fun db => db.hasUser uid = found := by
  intro db db' rely holds
  have kept : UserKept exclusive uid db db' := rely.agree _ mem
  exact kept.found.trans holds

theorem stable_children (children : List Nat) (mem : comment commentId ∈ held)
    (locked : ∀ child ∈ children, comment child ∈ held) :
    terms.contract.Stable held fun db =>
      ∀ child, child ∈ children ↔ child ∈ db.children commentId := by
  intro db db' rely holds child
  have kept : CommentKept terms.tracked commentId db db' := rely.agree _ mem
  constructor
  · intro among
    have keptChild : CommentKept terms.tracked child db db' := rely.agree _ (locked child among)
    obtain ⟨row, isFound, isChild⟩ := mem_children.mp ((holds child).mp among)
    exact mem_children.mpr ⟨row, keptChild.found.trans isFound, isChild⟩
  · intro isChild
    exact (holds child).mpr (kept.children isChild)

theorem stable_commentsOf (erased : List Nat) (mem : user uid true ∈ held)
    (locked : ∀ id ∈ erased, comment id ∈ held) :
    terms.contract.Stable held fun db => ∀ id, id ∈ erased ↔ id ∈ db.commentsOf uid := by
  intro db db' rely holds commentId
  have kept : UserKept true uid db db' := rely.agree _ mem
  constructor
  · intro among
    have keptRow : CommentKept terms.tracked commentId db db' :=
      rely.agree _ (locked commentId among)
    obtain ⟨row, isFound, written⟩ := mem_commentsOf.mp ((holds commentId).mp among)
    exact mem_commentsOf.mpr ⟨row, keptRow.found.trans isFound, written⟩
  · intro written
    exact (holds commentId).mpr (kept.comments rfl written)

theorem stable_action (tracked : terms.tracked = true) (mem : action.target.lock ∈ held)
    (found : Bool) :
    terms.contract.Stable held fun db => decide (action ∈ db.actions) = found := by
  intro db db' rely holds
  have same : db'.actionsOn action.target = db.actionsOn action.target := by
    cases target : action.target with rw [target] at mem
    | comment commentId =>
      have kept : CommentKept terms.tracked commentId db db' := rely.agree _ mem
      exact kept.actions tracked
    | solution solutionId =>
      have kept : SolutionKept terms.tracked solutionId db db' := rely.agree _ mem
      exact kept.actions tracked
  rw [← holds]
  simp only [mem_actions_iff, same]

/-! ## Rules for the statements -/

section

variable (stable : terms.contract.Stable held fact)
include stable

theorem outlined_lockRow {α : Type} {lock : Lock} {value : Tables → α} {next : α → Body}
    (guarded : ∀ found, terms.contract.Stable (lock :: held) fun db => value db = found)
    (continues : ∀ db,
      terms.contract.Stable (lock :: held) (fun db' => fact db' ∧ value db' = value db) →
      terms.contract.Outlined call fresh (fun db' => fact db' ∧ value db' = value db)
        (lock :: held) id (next (value db))) :
    terms.contract.Outlined call fresh fact held id (.lock (fun _ => [lock]) value next) := by
  intro db _ holds
  have stable' := (stable.mono (subset_cons_self lock held)).and (guarded (value db))
  exact ⟨_, ⟨holds, rfl⟩, stable', continues db stable'⟩

theorem outlined_lockComment {next : Option Comment → Body}
    (continues : ∀ found, (∀ row, found = some row → row.id = commentId) →
      terms.contract.Stable (.comment commentId :: held)
        (fun db => fact db ∧ db.findComment commentId = found) →
      terms.contract.Outlined call fresh (fun db => fact db ∧ db.findComment commentId = found)
        (.comment commentId :: held) id (next found)) :
    terms.contract.Outlined call fresh fact held id (lockComment commentId next) := by
  refine outlined_lockRow stable (stable_findComment mem_cons_self) fun db => ?_
  exact continues _ fun row isFound => (Table.find_eq_some_iff.mp isFound).2

theorem outlined_lockSolution {solutionId : Nat} {next : Option Solution → Body}
    (continues : ∀ found, (∀ row, found = some row → row.id = solutionId) →
      terms.contract.Stable (.solution solutionId :: held)
        (fun db => fact db ∧ db.findSolution solutionId = found) →
      terms.contract.Outlined call fresh (fun db => fact db ∧ db.findSolution solutionId = found)
        (.solution solutionId :: held) id (next found)) :
    terms.contract.Outlined call fresh fact held id (lockSolution solutionId next) := by
  refine outlined_lockRow stable (stable_findSolution mem_cons_self) fun db => ?_
  exact continues _ fun row isFound => (Table.find_eq_some_iff.mp isFound).2

/-- A query for the answers to a locked comment; what was written before has not changed
them. -/
theorem outlined_lockChildren {effect : Tables → Tables} {next : List Nat → Body}
    (locked : comment commentId ∈ held)
    (unwritten : ∀ db, (effect db).children commentId = db.children commentId)
    (continues : ∀ children,
      terms.contract.Stable (children.map .comment ++ held)
        (fun db => fact db ∧ ∀ child, child ∈ children ↔ child ∈ db.children commentId) →
      terms.contract.Outlined call fresh
        (fun db => fact db ∧ ∀ child, child ∈ children ↔ child ∈ db.children commentId)
        (children.map .comment ++ held) effect (next children)) :
    terms.contract.Outlined call fresh fact held effect (lockChildren commentId next) := by
  intro db _ holds
  beta_reduce
  rw [unwritten]
  have stable' := (stable.mono (subset_append_right
    ((db.children commentId).map .comment) held)).and
    (stable_children (db.children commentId) (mem_append_right _ locked)
      fun child mem => mem_append_left _ (mem_map_of_mem mem))
  exact ⟨_, ⟨holds, fun _ => Iff.rfl⟩, stable', continues _ stable'⟩

end

/-- The plain read of an action row sees what is committed, because the row of the target is
locked before the snapshot is taken. -/
theorem outlined_readAction {next : Bool → Body} (tracked : terms.tracked = true)
    (stable : terms.contract.Stable held fact)
    (locked : action.target.lock ∈ held)
    (continues : ∀ found,
      terms.contract.Stable held (fun db => fact db ∧ decide (action ∈ db.actions) = found) →
      terms.contract.Outlined call false
        (fun db => fact db ∧ decide (action ∈ db.actions) = found) held id (next found)) :
    terms.contract.Outlined call true fact held id
      (.read (fun db => decide (action ∈ db.actions)) next) := by
  refine Or.inl ⟨rfl, fun db _ holds => ?_⟩
  have stable' := stable.and (stable_action tracked locked (decide (action ∈ db.actions)))
  exact ⟨_, ⟨holds, rfl⟩, stable', continues _ stable'⟩

theorem outlined_check {locks : List Lock} {check : Tables → Bool} {rest : Body}
    (stable : terms.contract.Stable held fact)
    (guarded : terms.contract.Stable (locks ++ held) fun db => check db = true)
    (continues :
      terms.contract.Stable (locks ++ held) (fun db => fact db ∧ check db = true) →
      terms.contract.Outlined call fresh (fun db => fact db ∧ check db = true) (locks ++ held) id
        rest) :
    terms.contract.Outlined call fresh fact held id
      (.lock (fun _ => locks) check fun passed => if !passed then .raise else rest) := by
  intro db _ holds
  cases passed : check db with
  | false =>
    exact ⟨fun _ => True, trivial, fun _ _ _ _ => trivial, by simp [passed, Contract.Outlined]⟩
  | true =>
    have stable' := (stable.mono (subset_append_right locks held)).and guarded
    refine ⟨_, ⟨holds, passed⟩, stable', ?_⟩
    simpa [passed] using continues stable'

/-! ## The transactions -/

def Remembers (terms : Terms) : Prop :=
  ∀ db, terms.Inv db → ∀ row ∈ db.comments.rows, row ∈ db.past

theorem nonZero_eq_some {value found : Nat} (given : nonZero value = some found) :
    value = found ∧ found ≠ 0 := by
  unfold nonZero at given
  split at given <;> cases given
  case isFalse.refl nonzero => exact ⟨rfl, nonzero⟩

theorem respects_addComment (inv : terms.Inv (db.addComment row solution))
    (new : db.findComment row.id = none) (found : db.findSolution row.solutionId = some solution)
    (self : comment row.id ∈ held)
    (parent : ∀ parentId, row.parentId = some parentId → comment parentId ∈ held)
    (author : user row.userId false ∈ held) (counted : Lock.solution row.solutionId ∈ held) :
    terms.contract.Respects held db (db.addComment row solution) := by
  have isIts : row.solutionId = solution.id := (Table.find_eq_some_iff.mp found).2.symm
  rw [isIts] at found counted
  refine ⟨inv, ?_, fun lock compatible => ?_⟩
  · unfold addComment
    split <;> exact ⟨subset_cons_self _ _, List.Subset.refl _⟩
  · have inserted : Agree terms.tracked lock db (db.insertComment row) := by
      refine agree_insertComment new (ne_of_conflict (compatible _ self) (conflict_comment _))
        (fun parentId isParent => ?_)
        (ne_of_conflict (compatible _ author) (by simp [conflict]))
      exact ne_of_conflict (compatible _ (parent parentId isParent)) (conflict_comment _)
    unfold addComment
    split
    case isTrue =>
      exact inserted.trans (agree_updateSolution found
        (ne_of_conflict (compatible _ counted) (conflict_solution _)))
    case isFalse => exact inserted

variable {draft : CommentDraft} {erased : List Nat} {save : Nat → Tables → Tables} {count : Nat}

theorem outlined_insertUnderSolution (remembers : Remembers terms)
    (stable : terms.contract.Stable held fact)
    (locked : ∀ parentId, nonZero (draft.parentId.getD 0) = some parentId →
      Lock.comment parentId ∈ held)
    (keeps : ∀ db number solution, terms.Inv db → fact db →
      db.findSolution draft.solutionId = some solution → db.used (number + 1) = false →
      terms.Inv (db.addComment (draft.row (number + 1) now) solution)) :
    terms.contract.Outlined call fresh fact held id (insertUnderSolution draft now) := by
  refine outlined_lockSolution stable fun found _ stable' => ?_
  cases found with
  | none => trivial
  | some solution =>
  intro number
  refine outlined_check stable' ?_ fun _ => ?_
  · intro db db' rely checked
    rw [Bool.and_eq_true, Bool.not_eq_true'] at checked ⊢
    exact ⟨stable_hasUser mem_cons_self true rely checked.1,
      stable_used (by simp) false rely checked.2⟩
  -- the writes so far and the counting of a comment that answers no other are one operation
  have respects : ∀ db, terms.Inv db →
      (fact db ∧ db.findSolution draft.solutionId = some solution) ∧
        (db.hasUser draft.userId && !db.used (number + 1)) = true →
      terms.contract.Respects ([.user draft.userId false, .comment (number + 1)] ++
        .solution draft.solutionId :: held) db
        (db.addComment (draft.row (number + 1) now) solution) := by
    rintro db inv ⟨⟨holds, isSolution⟩, checked⟩
    rw [Bool.and_eq_true, Bool.not_eq_true'] at checked
    refine respects_addComment (keeps db number solution inv holds isSolution checked.2)
      (findComment_eq_none_of_unused (remembers db inv) checked.2) isSolution
      (by simp [row]) (fun parentId isParent => ?_) (by simp [row])
      (by simp [row])
    simp [locked parentId isParent]
  have topLevel : (draft.row (number + 1) now).parentId = none ↔ draft.parentId.getD 0 = 0 := by
    simp [row, nonZero]
  refine Contract.Outlined.write ?_
  split
  case isTrue zero =>
    split
    case isTrue => trivial
    case isFalse =>
      intro db inv holds _
      have operation := respects db inv holds
      rwa [addComment, if_pos (topLevel.mpr zero)] at operation
  case isFalse answers =>
    intro db inv holds _
    have operation := respects db inv holds
    rwa [addComment, if_neg (mt topLevel.mp answers)] at operation

theorem outlined_createComment (remembers : Remembers terms)
    (stable : terms.contract.Stable [] fact)
    (keeps : ∀ db number solution, terms.Inv db → fact db →
      (∀ parentId, (draft.row (number + 1) now).parentId = some parentId →
        ∃ parent, db.findComment parentId = some parent ∧ parent.solutionId = draft.solutionId) →
      db.findSolution draft.solutionId = some solution → db.used (number + 1) = false →
      terms.Inv (db.addComment (draft.row (number + 1) now) solution)) :
    terms.contract.Outlined call fresh fact [] id (createComment draft now) := by
  unfold createComment
  split
  case isTrue => trivial
  case isFalse =>
  split
  case isTrue positive =>
    have isParent : nonZero (draft.parentId.getD 0) = some (draft.parentId.getD 0) :=
      if_neg (Nat.ne_of_gt positive)
    refine outlined_lockComment stable fun found _ stable' => ?_
    cases found with
    | none => trivial
    | some parent =>
    dsimp only
    split
    case isTrue => trivial
    case isFalse same =>
    refine outlined_insertUnderSolution remembers stable' (fun parentId named => ?_)
      fun db number solution inv holds =>
        keeps db number solution inv holds.1 fun parentId named => ?_
    · rw [isParent] at named
      cases named
      exact mem_cons_self
    · have sameId : nonZero (draft.parentId.getD 0) = some parentId := named
      rw [isParent] at sameId
      cases sameId
      exact ⟨parent, holds.2, not_not.mp same⟩
  case isFalse zero =>
    have noParent : nonZero (draft.parentId.getD 0) = none := if_pos (by omega)
    refine outlined_insertUnderSolution remembers stable (fun parentId named => ?_)
      fun db number solution inv holds =>
        keeps db number solution inv holds fun parentId named => ?_
    · rw [noParent] at named
      cases named
    · have named' : nonZero (draft.parentId.getD 0) = some parentId := named
      rw [noParent] at named'
      cases named'

theorem outlined_updateComment {uid : Int} {content : Bytes}
    (stable : terms.contract.Stable [] fact)
    (keeps : ∀ db row, terms.Inv db → db.findComment row.id = some row →
      terms.Inv (db.updateComment (row.edited content now))) :
    terms.contract.Outlined call fresh fact [] id (updateComment commentId uid content now) := by
  unfold updateComment
  split
  case isTrue => trivial
  case isFalse =>
  refine outlined_lockComment stable fun found keyed _ => ?_
  cases found with
  | none => trivial
  | some row =>
  obtain rfl := keyed row rfl
  dsimp only
  split
  case isTrue => trivial
  case isFalse =>
  rintro db inv ⟨_, isFound⟩ _
  refine ⟨keeps db row inv isFound, ⟨subset_cons_self _ _, List.Subset.refl _⟩, ?_⟩
  intro lock compatible
  exact agree_updateComment isFound ⟨rfl, rfl, rfl, rfl⟩
    (ne_of_conflict (compatible _ mem_cons_self) (conflict_comment _))

theorem respects_removeThread (inv : terms.Inv (db.removeThread row erased solution))
    (found : db.findSolution row.solutionId = some solution) (self : comment row.id ∈ held)
    (children : ∀ child ∈ erased, comment child ∈ held)
    (counted : Lock.solution row.solutionId ∈ held) :
    terms.contract.Respects held db (db.removeThread row erased solution) := by
  have isIts : row.solutionId = solution.id := (Table.find_eq_some_iff.mp found).2.symm
  rw [isIts] at found counted
  refine ⟨inv, ?_, fun lock compatible => ?_⟩
  · unfold removeThread
    split <;> exact ⟨List.Subset.refl _, List.Subset.refl _⟩
  · have removed : Agree terms.tracked lock db (db.eraseComments (row.id :: erased)) := by
      refine agree_eraseComments fun commentId mem => ?_
      rcases List.mem_cons.mp mem with rfl | isChild
      · exact ne_of_conflict (compatible _ self) (conflict_comment _)
      · exact ne_of_conflict (compatible _ (children commentId isChild)) (conflict_comment _)
    unfold removeThread
    split
    case isTrue =>
      exact removed.trans (agree_updateSolution found
        (ne_of_conflict (compatible _ counted) (conflict_solution _)))
    case isFalse => exact removed

theorem outlined_eraseThread (stable : terms.contract.Stable held fact)
    (locked : comment row.id ∈ held) (counted : Lock.solution row.solutionId ∈ held)
    (found : ∀ db, fact db → db.findSolution row.solutionId = some solution)
    (keeps : ∀ db erased, terms.Inv db → fact db →
      (∀ child, child ∈ erased ↔ child ∈ db.children row.id) →
      terms.Inv (db.removeThread row erased solution)) :
    terms.contract.Outlined call fresh fact held id (eraseThread row solution) := by
  refine outlined_lockChildren stable locked (fun _ => rfl) fun childIds stable' => ?_
  refine Contract.Outlined.write ?_
  refine outlined_lockChildren stable' (mem_append_right _ locked) (fun db => ?_) fun erased _ => ?_
  · simp only [Function.comp_apply, id, foldl_eraseActionsOn]
    rfl
  have respects : ∀ db, terms.Inv db →
      (fact db ∧ ∀ child, child ∈ childIds ↔ child ∈ db.children row.id) ∧
        (∀ child, child ∈ erased ↔ child ∈ db.children row.id) →
      terms.contract.Respects (erased.map .comment ++ (childIds.map .comment ++ held)) db
        (db.removeThread row erased solution) ∧ childIds ⊆ erased := by
    rintro db inv ⟨⟨holds, first⟩, second⟩
    refine ⟨respects_removeThread (keeps db erased inv holds second) (found db holds) ?_ ?_ ?_, ?_⟩
    · simp [locked]
    · intro child mem
      simp [mem]
    · simp [counted]
    · intro child mem
      exact (second child).mpr ((first child).mp mem)
  refine Contract.Outlined.write (Contract.Outlined.write (Contract.Outlined.write ?_))
  split
  case isTrue zero =>
    intro db inv holds _
    obtain ⟨operation, known⟩ := respects db inv holds
    rw [removeThread, if_pos zero, ← eraseComments_cons known] at operation
    exact operation
  case isFalse answers =>
    intro db inv holds _
    obtain ⟨operation, known⟩ := respects db inv holds
    rw [removeThread, if_neg answers, ← eraseComments_cons known] at operation
    exact operation

theorem outlined_deleteComment {uid : Int} {isAdmin : Bool} (stable : terms.contract.Stable [] fact)
    (keeps : ∀ db row erased solution, terms.Inv db → db.findComment row.id = some row →
      db.findSolution row.solutionId = some solution →
      (∀ child, child ∈ erased ↔ child ∈ db.children row.id) →
      terms.Inv (db.removeThread row erased solution)) :
    terms.contract.Outlined call fresh fact [] id (deleteComment commentId uid isAdmin) := by
  unfold deleteComment
  split
  case isTrue => trivial
  case isFalse =>
  refine outlined_lockComment stable fun found keyed stable' => ?_
  cases found with
  | none => trivial
  | some row =>
  obtain rfl := keyed row rfl
  dsimp only
  split
  case isTrue => trivial
  case isFalse =>
  refine outlined_lockSolution stable' fun found _ stable'' => ?_
  cases found with
  | none => trivial
  | some solution =>
  refine outlined_eraseThread stable'' (by simp) mem_cons_self (fun db holds => holds.2) ?_
  rintro db erased inv ⟨⟨_, isFound⟩, isSolution⟩ children
  exact keeps db row erased solution inv isFound isSolution children

structure Saves (terms : Terms) (fact : Tables → Prop) (target : ActionTarget)
    (save : Nat → Tables → Tables) : Prop where
  agree : ∀ {db db' : Tables} {lock : Lock} (count : Nat), fact db → db'.comments = db.comments →
    db'.solutions = db.solutions → lock ≠ target.lock →
      Agree terms.tracked lock db' (save count db')
  past : ∀ (db : Tables) (count : Nat), db.past ⊆ (save count db).past
  accounts : ∀ (db : Tables) (count : Nat), (save count db).accounts = db.accounts

/-- What a toggle changes is locked: `db'` are the tables with the changed action rows. -/
theorem Saves.respects {target : ActionTarget} (saves : Saves terms fact target save) {db' : Tables}
    (holds : fact db) (inv : terms.Inv (save count db')) (comments : db'.comments = db.comments)
    (solutions : db'.solutions = db.solutions) (accounts : db'.accounts = db.accounts)
    (past : db'.past = db.past)
    (agree : ∀ lock, lock ≠ target.lock → Agree terms.tracked lock db db')
    (locked : target.lock ∈ held) : terms.contract.Respects held db (save count db') := by
  refine ⟨inv, ⟨?_, ?_⟩, fun lock compatible => ?_⟩
  · rw [← past]
    exact saves.past db' count
  · rw [saves.accounts, accounts]
    exact List.Subset.refl _
  · have other : lock ≠ target.lock :=
      ne_of_conflict (compatible _ locked) (by cases target <;> simp [ActionTarget.lock, conflict])
    exact (agree lock other).trans (saves.agree count holds comments solutions other)

theorem outlined_toggleLocked (tracked : terms.tracked = true)
    (stable : terms.contract.Stable held fact)
    (locked : action.target.lock ∈ held) (saves : Saves terms fact action.target save)
    (counted : ∀ db, terms.Inv db → fact db → action ∈ db.actions → 0 < count)
    (erases : ∀ db, terms.Inv db → fact db → action ∈ db.actions →
      terms.Inv (save (count - 1) (db.eraseAction action)))
    (inserts : ∀ db, terms.Inv db → fact db → action ∉ db.actions →
      terms.Inv (save (count + 1) (db.insertAction action))) :
    terms.contract.Outlined call true fact held id (toggleLocked action count save) := by
  refine outlined_readAction tracked stable locked fun found stable' => ?_
  cases found with
  | true =>
    refine outlined_check stable' (stable_action tracked locked true) fun _ => ?_
    refine Contract.Outlined.write ?_
    split
    case isTrue =>
      rintro db inv ⟨⟨holds, present⟩, _⟩ _
      have mem : action ∈ db.actions := of_decide_eq_true present
      exact saves.respects holds (erases db inv holds mem) rfl rfl rfl rfl
        (fun _ => agree_eraseAction) locked
    case isFalse zero =>
      rintro db inv ⟨⟨holds, present⟩, _⟩
      exact zero (counted db inv holds (of_decide_eq_true present))
  | false =>
    dsimp only
    split
    case isTrue => trivial
    case isFalse =>
    refine outlined_check stable' ?_ fun _ => ?_
    · intro db db' rely checked
      rw [Bool.and_eq_true, decide_eq_true_eq, ← decide_eq_false_iff_not] at checked ⊢
      exact ⟨stable_hasUser mem_cons_self true rely checked.1,
        stable_action tracked (mem_cons_of_mem _ locked) false rely checked.2⟩
    rintro db inv ⟨⟨holds, absent⟩, _⟩ _
    exact saves.respects holds (inserts db inv holds (of_decide_eq_false absent)) rfl rfl rfl rfl
      (fun _ => agree_insertAction) (mem_cons_of_mem _ locked)

theorem respects_eraseUser (untracked : terms.tracked = false)
    (inv : terms.Inv (db.eraseUser uid erased))
    (self : user uid true ∈ held) (comments : ∀ id ∈ erased, comment id ∈ held) :
    terms.contract.Respects held db (db.eraseUser uid erased) := by
  refine ⟨inv, ⟨List.Subset.refl _, filter_subset_self _⟩, fun lock compatible => ?_⟩
  show Agree terms.tracked lock db (db.eraseUser uid erased)
  rw [untracked]
  refine agree_eraseUser (fun exclusive => ?_) fun commentId mem => ?_
  · exact ne_of_conflict (compatible _ self) (by simp [conflict])
  · exact ne_of_conflict (compatible _ (comments commentId mem)) (conflict_comment _)

/-- The account that `DeleteUserByEmail` has found stays the one with its number, because no
account is added. -/
theorem stable_account (account : Account) : terms.contract.Stable held fun db =>
  ∀ other ∈ db.accounts.rows, other.uid = account.uid → other = account :=
  fun _ _ rely holds other mem same => holds other (rely.grows.accounts mem) same

theorem outlined_deleteUserByEmail {email : Bytes} (untracked : terms.tracked = false)
    (stable : terms.contract.Stable [] fact)
    (keeps : ∀ db account erased, terms.Inv db → terms.Meets call db →
      account ∈ db.accounts.rows →
      terms.setting.collation.equal account.email email = true →
      (∀ id, id ∈ erased ↔ id ∈ db.commentsOf account.uid) →
      terms.Inv (db.eraseUser account.uid erased)) :
    terms.contract.Outlined call true fact [] id (deleteUserByEmail terms.setting email) := by
  refine Or.inl ⟨rfl, fun db _ holds => ?_⟩
  dsimp only [id]
  cases found : db.accounts.rows.find? fun account =>
    terms.setting.collation.equal account.email email with
  | none =>
    refine ⟨fact, holds, stable, fun db inv _ _ => ?_⟩
    exact ⟨inv, Grows.refl db, fun lock _ => Agree.refl _ lock db⟩
  | some account =>
  have mem : account ∈ db.accounts.rows := mem_of_find?_eq_some found
  have matching : terms.setting.collation.equal account.email email = true := by
    simpa using List.find?_some found
  refine ⟨_, ⟨holds, fun other mem' same => Table.eq_of_key mem' mem same⟩,
    stable.and (stable_account account), ?_⟩
  rintro db - ⟨_, only⟩
  dsimp only [id]
  cases passed : db.hasUser account.uid && !terms.setting.restricts account.uid db with
  | false => exact ⟨fun _ => True, trivial, fun _ _ _ _ => trivial, trivial⟩
  | true =>
  have isThere : db.hasUser account.uid = true := (Bool.and_eq_true_iff.mp passed).1
  refine ⟨_, ⟨only, isThere, fun _ => Iff.rfl⟩, (stable_account account).and
    ((stable_hasUser mem_cons_self true).and
      (stable_commentsOf (db.commentsOf account.uid) mem_cons_self ?_)), ?_⟩
  · intro commentId member
    simp [member]
  rintro db' inv ⟨only', isThere', comments⟩ meets
  obtain ⟨other, isFound⟩ := Option.isSome_iff_exists.mp isThere'
  obtain ⟨mem', same⟩ := Table.find_eq_some_iff.mp isFound
  obtain rfl := only' other mem' same
  refine respects_eraseUser untracked (keeps db' other _ inv meets mem' matching comments)
    mem_cons_self fun commentId member => ?_
  simp [member]

end Outlines

end OnlineJudge.Discussions
